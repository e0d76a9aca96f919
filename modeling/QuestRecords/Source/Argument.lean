import QuestRecords.Source.Bracket
import QuestRecords.Text.Blank

/-! Arguments of a call: the text between its parentheses, cut at the commas that stand in no
bracket and in no literal. A literal that is never closed belongs to the last argument. -/
namespace QuestRecords.Source

open Text

namespace Piece

/-- By how much a piece changes the number of open brackets. -/
def nesting : Piece → Int
  | plain c => if c = '(' ∨ c = '[' ∨ c = '\x7b' then 1
    else if c = ')' ∨ c = ']' ∨ c = '\x7d' then -1 else 0
  | quoted _ => 0

/-- Cuts at the commas met at depth zero; the first group and the groups behind each cut. -/
def cutAtCommas (depth : Int) : List Piece → List Piece × List (List Piece)
  | [] => ([], [])
  | piece :: rest =>
    if piece = plain ',' ∧ depth = 0 then
      let (first, others) := cutAtCommas depth rest
      ([], first :: others)
    else
      let (first, others) := cutAtCommas (depth + piece.nesting) rest
      (piece :: first, others)

end Piece

/-- The texts between the separating commas, as they stand. -/
def rawArguments (text : Text) : List Text :=
  let (pieces, unclosed) := Piece.split text
  let (first, others) := Piece.cutAtCommas 0 pieces
  match (first :: others).map Piece.join with
  | [] => []
  | group :: groups =>
    (group :: groups).dropLast ++ [(group :: groups).getLast (List.cons_ne_nil _ _) ++ unclosed]

/-- The arguments, trimmed. A text that is blank throughout has none. -/
def splitArguments (text : Text) : List Text :=
  let arguments := (rawArguments text).map trim
  if arguments = [[]] then [] else arguments

end QuestRecords.Source
