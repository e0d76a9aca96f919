import QuestRecords.Source.Piece

/-! Matching parentheses. Only parentheses outside of quoted literals count, and a literal that
is never closed hides everything behind it. -/
namespace QuestRecords.Source

open Text

namespace Piece

/-- Reads up to the parenthesis that closes one opened before the text: the pieces before it, and
what follows it. `depth` counts the parentheses opened since. -/
def close? (depth : Nat) (text : Text) : Option (List Piece × Text) :=
  match _read : next? text with
  | none => none
  | some (piece, rest) =>
    if piece = plain ')' then
      match depth with
      | 0 => some ([], rest)
      | depth + 1 => (close? depth rest).map fun (inside, after) => (piece :: inside, after)
    else if piece = plain '(' then
      (close? (depth + 1) rest).map fun (inside, after) => (piece :: inside, after)
    else (close? depth rest).map fun (inside, after) => (piece :: inside, after)
termination_by text.length
decreasing_by all_goals exact length_lt_of_next? _read

theorem close?_eq_append {depth : Nat} {text : Text} {inside : List Piece} {after : Text}
    (read : close? depth text = some (inside, after)) : text = join inside ++ ')' :: after := by
  fun_induction close? depth text generalizing inside after with
  | case1 => simp at read
  | case2 text rest found =>
    cases read
    exact next?_eq_append found
  | case3 text rest depth found ih =>
    obtain ⟨⟨inner, left⟩, closed, same⟩ := Option.map_eq_some_iff.mp read
    cases same
    rw [next?_eq_append found, ih closed, join_cons, List.append_assoc]
  | case4 depth text rest found _ ih =>
    obtain ⟨⟨inner, left⟩, closed, same⟩ := Option.map_eq_some_iff.mp read
    cases same
    rw [next?_eq_append found, ih closed, join_cons, List.append_assoc]
  | case5 depth text piece rest found _ _ ih =>
    obtain ⟨⟨inner, left⟩, closed, same⟩ := Option.map_eq_some_iff.mp read
    cases same
    rw [next?_eq_append found, ih closed, join_cons, List.append_assoc]

end Piece

/-- Reads a parenthesised text that starts at its opening parenthesis: what stands inside, and
what follows the closing one. -/
def parenthesised? : Text → Option (Text × Text)
  | '(' :: rest => (Piece.close? 0 rest).map fun (inside, after) => (Piece.join inside, after)
  | _ => none

/-- The byte offset of the parenthesis that closes the one at the given offset. -/
def matchingParen? (text : Text) (openParen : Nat) : Option Nat := do
  let (_, ahead) ← text.splitAt? openParen
  let (inside, _) ← parenthesised? ahead
  return openParen + 1 + width inside

end QuestRecords.Source
