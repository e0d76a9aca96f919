import QuestRecords.Text.Basic

/-! Program text as bracket matching sees it: a quoted literal is one piece, so that a bracket or
a comma inside of it counts for nothing, and every other character is a piece of its own. -/
namespace QuestRecords.Source

/-- A complete quoted literal with both its quotes, or a single character. -/
inductive Piece where
  | quoted (raw : Text)
  | plain (c : Char)
  deriving DecidableEq

namespace Piece

def text : Piece → Text
  | quoted raw => raw
  | plain c => [c]

def isQuote (c : Char) : Bool := c == '"' || c == '\x27'

/-- Reads on behind an opening quote, up to and including the next equal quote that no backslash
stands before. -/
def quotedTail? (quote : Char) : Text → Option (Text × Text)
  | [] => none
  | '\\' :: c :: rest => (quotedTail? quote rest).map fun (raw, after) => ('\\' :: c :: raw, after)
  | c :: rest =>
    if c = quote then some ([c], rest)
    else (quotedTail? quote rest).map fun (raw, after) => (c :: raw, after)

theorem quotedTail?_eq_append {quote : Char} {text raw after : Text}
    (read : quotedTail? quote text = some (raw, after)) : text = raw ++ after := by
  fun_induction quotedTail? quote text generalizing raw after with
  | case1 => simp at read
  | case2 c rest ih =>
    obtain ⟨⟨inner, left⟩, found, same⟩ := Option.map_eq_some_iff.mp read
    cases same
    simp [ih found]
  | case3 rest =>
    cases read
    rfl
  | case4 c rest _ _ ih =>
    obtain ⟨⟨inner, left⟩, found, same⟩ := Option.map_eq_some_iff.mp read
    cases same
    simp [ih found]

/-- Reads one piece. There is none at the end of the text, nor at a quote that is never closed. -/
def next? : Text → Option (Piece × Text)
  | [] => none
  | c :: rest =>
    if isQuote c then (quotedTail? c rest).map fun (raw, after) => (quoted (c :: raw), after)
    else some (plain c, rest)

theorem next?_eq_append {text : Text} {piece : Piece} {rest : Text}
    (read : next? text = some (piece, rest)) : text = piece.text ++ rest := by
  cases text with
  | nil => simp [next?] at read
  | cons c tail =>
    simp only [next?] at read
    split at read
    · obtain ⟨⟨raw, after⟩, found, same⟩ := Option.map_eq_some_iff.mp read
      cases same
      simp [Piece.text, quotedTail?_eq_append found]
    · cases read
      rfl

theorem text_ne_nil_of_next? {text : Text} {piece : Piece} {rest : Text}
    (read : next? text = some (piece, rest)) : piece.text ≠ [] := by
  cases text with
  | nil => simp [next?] at read
  | cons c tail =>
    simp only [next?] at read
    split at read
    · obtain ⟨⟨raw, after⟩, _, same⟩ := Option.map_eq_some_iff.mp read
      cases same
      simp [Piece.text]
    · cases read
      simp [Piece.text]

/-- What a piece leaves unread is shorter. -/
theorem length_lt_of_next? {text : Text} {piece : Piece} {rest : Text}
    (read : next? text = some (piece, rest)) : rest.length < text.length := by
  have := List.length_pos_iff.mpr (text_ne_nil_of_next? read)
  rw [next?_eq_append read, List.length_append]
  omega

/-- The pieces of a text up to its end or to the first quote that is never closed, and what is
left from that quote on. -/
def split (text : Text) : List Piece × Text :=
  match _read : next? text with
  | none => ([], text)
  | some (piece, rest) =>
    let (pieces, unclosed) := split rest
    (piece :: pieces, unclosed)
termination_by text.length
decreasing_by exact length_lt_of_next? _read

/-- The text that the pieces were cut from. -/
def join (pieces : List Piece) : Text := pieces.flatMap Piece.text

@[simp] theorem join_nil : join [] = [] := rfl

@[simp] theorem join_cons (piece : Piece) (pieces : List Piece) :
    join (piece :: pieces) = piece.text ++ join pieces := rfl

/-- Nothing is lost by cutting a text into pieces. -/
theorem join_split (text : Text) : join (split text).1 ++ (split text).2 = text := by
  fun_induction split text with
  | case1 => rfl
  | case2 text piece rest read pieces unclosed cut ih =>
    rw [cut] at ih
    rw [next?_eq_append read, join_cons, List.append_assoc, ih]

end Piece
end QuestRecords.Source
