import QuestRecords.Source.Argument

/-! Reading by pieces is local: a piece reads the same whatever follows it, so brackets and commas can
be counted on pieces instead of in the text. A complete text is one that is cut into pieces to its
end. -/
namespace QuestRecords.Source.Piece

open Text

theorem isQuote_ne_escape {quote : Char} (isQuote : isQuote quote = true) : quote ≠ '\\' := by
  rintro rfl
  exact absurd isQuote (by decide)

/-- What stands between two quotes is read whatever follows it. -/
theorem quotedTail?_raw {quote : Char} (notEscape : quote ≠ '\\') {text raw after : Text}
    (read : quotedTail? quote text = some (raw, after)) (more : Text) :
    quotedTail? quote (raw ++ more) = some (raw, more) := by
  fun_induction quotedTail? quote text generalizing raw after with
  | case1 => cases read
  | case2 c rest ih =>
    obtain ⟨⟨inner, left⟩, found, same⟩ := Option.map_eq_some_iff.mp read
    cases same
    rw [List.cons_append, List.cons_append, quotedTail?, ih found, Option.map_some]
  | case3 rest =>
    cases read
    rw [List.singleton_append, quotedTail?, if_pos rfl]
    intro _ _ escape
    exact absurd escape notEscape
  | case4 c rest noPair other ih =>
    obtain ⟨⟨inner, left⟩, found, same⟩ := Option.map_eq_some_iff.mp read
    cases same
    rw [List.cons_append, quotedTail?, if_neg other, ih found, Option.map_some]
    intro next tail escape whole
    cases rest with
    | nil => cases found
    | cons d rest => exact noPair d rest escape rfl

/-- A piece that is read from its own text, whatever follows. -/
def Proper (piece : Piece) : Prop := ∀ more, next? (piece.text ++ more) = some (piece, more)

theorem proper_plain {c : Char} (notQuote : isQuote c = false) : Proper (plain c) := by
  intro more
  rw [text, List.singleton_append, next?, if_neg (by simp [notQuote])]

theorem proper_quoted {quote : Char} (isQuote : isQuote quote = true) {text raw after : Text}
    (read : quotedTail? quote text = some (raw, after)) : Proper (.quoted (quote :: raw)) := by
  intro more
  rw [Piece.text, List.cons_append, next?, if_pos isQuote,
    quotedTail?_raw (isQuote_ne_escape isQuote) read, Option.map_some]

theorem proper_of_next? {text rest : Text} {piece : Piece}
    (read : next? text = some (piece, rest)) : Proper piece := by
  cases text with
  | nil => cases read
  | cons c tail =>
    rw [next?] at read
    by_cases isQuote : isQuote c = true
    · rw [if_pos isQuote] at read
      obtain ⟨⟨raw, after⟩, found, same⟩ := Option.map_eq_some_iff.mp read
      cases same
      exact proper_quoted isQuote found
    · rw [if_neg isQuote] at read
      cases read
      exact proper_plain (Bool.eq_false_iff.mpr isQuote)

theorem split_of_next?_none {text : Text} (missing : next? text = none) :
    split text = ([], text) := by
  rw [split]
  split
  · rfl
  · simp_all

theorem split_of_next? {text rest : Text} {piece : Piece}
    (read : next? text = some (piece, rest)) :
    split text = (piece :: (split rest).1, (split rest).2) := by
  rw [split]
  split
  · simp_all
  · simp_all

theorem close?_of_next? {text rest : Text} {piece : Piece}
    (read : next? text = some (piece, rest)) (depth : Nat) :
    close? depth text =
      if piece = plain ')' then
        match depth with
        | 0 => some ([], rest)
        | depth + 1 => (close? depth rest).map fun (inside, after) => (piece :: inside, after)
      else if piece = plain '(' then
        (close? (depth + 1) rest).map fun (inside, after) => (piece :: inside, after)
      else (close? depth rest).map fun (inside, after) => (piece :: inside, after) := by
  rw [close?]
  split
  · simp_all
  · rename_i read'
    cases read.symm.trans read'
    rfl

theorem proper_of_mem_split (text : Text) : ∀ piece ∈ (split text).1, Proper piece := by
  fun_induction split text with
  | case1 => exact List.forall_mem_nil _
  | case2 text first rest read pieces unclosed cut ih =>
    rw [cut] at ih
    exact List.forall_mem_cons.mpr ⟨proper_of_next? read, ih⟩

/-- What stands before a closing parenthesis was read in pieces. -/
theorem proper_of_mem_close? {depth : Nat} {text after : Text} {inside : List Piece}
    (closed : close? depth text = some (inside, after)) : ∀ piece ∈ inside, Proper piece := by
  fun_induction close? depth text generalizing inside after with
  | case1 => cases closed
  | case2 text rest read =>
    cases closed
    exact List.forall_mem_nil _
  | case3 text rest depth read ih =>
    obtain ⟨⟨inner, left⟩, found, same⟩ := Option.map_eq_some_iff.mp closed
    cases same
    exact List.forall_mem_cons.mpr ⟨proper_of_next? read, ih found⟩
  | case4 depth text rest read _ ih =>
    obtain ⟨⟨inner, left⟩, found, same⟩ := Option.map_eq_some_iff.mp closed
    cases same
    exact List.forall_mem_cons.mpr ⟨proper_of_next? read, ih found⟩
  | case5 depth text first rest read _ _ ih =>
    obtain ⟨⟨inner, left⟩, found, same⟩ := Option.map_eq_some_iff.mp closed
    cases same
    exact List.forall_mem_cons.mpr ⟨proper_of_next? read, ih found⟩

/-- A text that is cut into pieces to its end: every quote in it that opens a literal is closed. -/
def Complete (text : Text) : Prop := (split text).2 = []

theorem complete_nil : Complete [] := by rw [Complete, split_of_next?_none rfl]

theorem complete_piece_append {piece : Piece} (proper : Proper piece) {text : Text} :
    Complete (piece.text ++ text) ↔ Complete text := by
  rw [Complete, Complete, split_of_next? (proper text)]

theorem complete_cons_iff {c : Char} (notQuote : isQuote c = false) {text : Text} :
    Complete (c :: text) ↔ Complete text :=
  complete_piece_append (proper_plain notQuote)

theorem complete_join {pieces : List Piece} (proper : ∀ piece ∈ pieces, Proper piece) :
    Complete (join pieces) := by
  induction pieces with
  | nil => exact complete_nil
  | cons piece pieces ih =>
    obtain ⟨first, others⟩ := List.forall_mem_cons.mp proper
    exact (complete_piece_append first).mpr (ih others)

theorem Complete.join_eq {text : Text} (complete : Complete text) :
    join (split text).1 = text := by
  have whole := join_split text
  rwa [complete, List.append_nil] at whole

/-- Behind an opening quote a complete text has a closing one, and is complete behind that. -/
theorem Complete.closed {quote : Char} (isQuote : isQuote quote = true) {text : Text}
    (complete : Complete (quote :: text)) :
    ∃ raw after, quotedTail? quote text = some (raw, after) ∧ Complete after := by
  cases found : quotedTail? quote text with
  | none =>
    have first : next? (quote :: text) = none := by
      rw [next?, if_pos isQuote, found, Option.map_none]
    rw [Complete, split_of_next?_none first] at complete
    cases complete
  | some parts =>
    obtain ⟨raw, after⟩ := parts
    have first : next? (quote :: text) = some (quoted (quote :: raw), after) := by
      rw [next?, if_pos isQuote, found, Option.map_some]
    rw [Complete, split_of_next? first] at complete
    exact ⟨raw, after, rfl, complete⟩

end QuestRecords.Source.Piece
