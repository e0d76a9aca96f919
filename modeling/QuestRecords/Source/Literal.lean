import QuestRecords.Text.Blank

/-! String literals of the program text. A literal is a chain of fragments joined by plus signs;
inside a fragment a backslash stands for the character behind it. Reading takes the longest chain
and fails when one of its fragments has no closing quote. -/
namespace QuestRecords.Source.Literal

open Text

/-- Reads the rest of a fragment behind its opening quote: its value, and what follows the
closing quote. -/
def fragment? : Text → Option (Text × Text)
  | [] => none
  | '"' :: rest => some ([], rest)
  | '\\' :: c :: rest => (fragment? rest).map fun (value, after) => (c :: value, after)
  | c :: rest => (fragment? rest).map fun (value, after) => (c :: value, after)

/-- A plus sign and an opening quote, with gaps before each; what is left starts at the quote. -/
def continuation? (text : Text) : Option Text :=
  match skipGaps text with
  | '+' :: rest =>
    match skipGaps rest with
    | '"' :: body => some ('"' :: body)
    | _ => none
  | _ => none

theorem length_fragment?_lt {text value rest : Text} (read : fragment? text = some (value, rest)) :
    rest.length < text.length := by
  fun_induction fragment? text generalizing value rest with
  | case1 => simp at read
  | case2 body => simp_all
  | case3 c body ih =>
    obtain ⟨⟨inner, left⟩, found, same⟩ := Option.map_eq_some_iff.mp read
    cases same
    have := ih found
    simp only [List.length_cons]
    omega
  | case4 c body _ _ ih =>
    obtain ⟨⟨inner, left⟩, found, same⟩ := Option.map_eq_some_iff.mp read
    cases same
    have := ih found
    simp only [List.length_cons]
    omega

theorem length_continuation?_lt {text next : Text} (found : continuation? text = some next) :
    next.length < text.length := by
  unfold continuation? at found
  have shorter := fun text : Text => (List.dropWhile_sublist isGap (l := text)).length_le
  split at found
  · rename_i rest plus
    split at found
    · rename_i body quote
      have first := shorter text
      have second := shorter rest
      simp only [skipGaps] at plus quote
      simp only [plus, quote, List.length_cons] at first second
      cases found
      simp only [List.length_cons]
      omega
    · simp at found
  · simp at found

/-- Reads a chain of fragments from its first opening quote: the joined value, and what follows
the last closing quote. -/
def chain? : Text → Option (Text × Text)
  | '"' :: body =>
    match _first : fragment? body with
    | none => none
    | some (value, rest) =>
      match _more : continuation? rest with
      | none => some (value, rest)
      | some next => (chain? next).map fun (others, after) => (value ++ others, after)
  | _ => none
termination_by text => text.length
decreasing_by
  have := length_fragment?_lt _first
  have := length_continuation?_lt _more
  simp only [List.length_cons]
  omega

/-- A literal that was read, and the byte offset behind its last closing quote. -/
structure Reading where
  value : Text
  stop : Nat
  deriving DecidableEq

/-- Reads the literal that starts at a byte offset of the text. -/
def read? (text : Text) (offset : Nat) : Option Reading := do
  let (before, ahead) ← text.splitAt? offset
  let (value, rest) ← chain? ahead
  return ⟨value, width before + width (upTo ahead rest)⟩

/-- Reads an argument that is expected to be a literal; blanks may stand before it. -/
def ofArgument? (argument : Text) : Option Text :=
  (chain? (trimStart argument)).map (·.1)

end QuestRecords.Source.Literal
