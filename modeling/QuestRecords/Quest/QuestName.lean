import QuestRecords.Text.LetterCase

/-! Display names of quest constants: `DRUIDIC_RITUAL` is shown as `Druidic Ritual`, and Roman
numerals up to 39 stay as they are. -/
namespace QuestRecords.QuestName

open Text

/-- The Roman numerals from zero, which is empty, to nine. -/
def romanUnits : List Text :=
  ["", "I", "II", "III", "IV", "V", "VI", "VII", "VIII", "IX"].map String.toList

/-- The Roman numerals from one to 39. -/
def romanNumerals : List Text :=
  ([0, 1, 2, 3].flatMap fun tens => romanUnits.map (List.replicate tens 'X' ++ ·)).filter (· ≠ [])

/-- The parts of a text between underscores. -/
def splitUnderscores : Text → Text × List Text
  | [] => ([], [])
  | c :: rest =>
    let (first, others) := splitUnderscores rest
    if c = '_' then ([], first :: others) else (c :: first, others)

/-- The words of a constant; underscores next to each other separate nothing. -/
def words (constant : Text) : List Text :=
  let (first, others) := splitUnderscores constant
  (first :: others).filter (· ≠ [])

/-- A word with its first character in upper case and the others in lower case. -/
def capitalised : Text → Text
  | [] => []
  | c :: rest => upperChar c ++ rest.flatMap lowerChar

def showWord (word : Text) : Text := if word ∈ romanNumerals then word else capitalised word

/-- The name under which a quest constant is shown. -/
def ofConstant (constant : Text) : Text := [' '].intercalate ((words constant).map showWord)

end QuestRecords.QuestName
