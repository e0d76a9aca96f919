import QuestRecords.Text.Blank
import QuestRecords.Text.Word
import QuestRecords.Text.Site

/-! Small readers of which the patterns in program text are made. Each takes the text ahead and
returns what it left; names start with an ASCII letter or underscore and go on with word
characters of any script. -/
namespace QuestRecords.Source.Reader

open Text

/-- Reads a fixed text. -/
def word? (expected : String) (text : Text) : Option Text := after? expected.toList text

/-- Reads one character. -/
def char? (expected : Char) : Text → Option Text
  | [] => none
  | c :: rest => if c = expected then some rest else none

/-- Reads a name whose first character passes `first` and whose others pass `later`. -/
def nameOf? (first later : Char → Bool) : Text → Option (Text × Text)
  | [] => none
  | c :: rest =>
    if first c then some (c :: rest.takeWhile later, rest.dropWhile later) else none

/-- Reads a name. -/
def name? (text : Text) : Option (Text × Text) :=
  nameOf? (fun c => c.isAlpha || c == '_') isWord text

/-- A word may start at this place. -/
def startsWord (site : Site) : Bool := isWordEdge site.behind.head?

/-- Reads a character that blanks may stand before. -/
def spacedChar? (expected : Char) (text : Text) : Option Text := char? expected (skipBlanks text)

end QuestRecords.Source.Reader
