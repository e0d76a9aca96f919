import QuestRecords.Text.Alphanumeric
import QuestRecords.Text.LetterCase

/-! Names that a quest goes by: the class that holds its source is named after its display name,
its source lies in a directory named after the class, and its record after the class too. -/
namespace QuestRecords.Naming

open Text

def isApostrophe (c : Char) : Bool := c == '\x27' || c == '’'

/-- The class name for the rest of a display name; `atStart` when the next letter starts a word. -/
def classNameFrom (atStart : Bool) : Text → Text
  | [] => []
  | c :: rest =>
    if isApostrophe c then classNameFrom atStart rest
    else if isAlphanumeric c then
      (if atStart then upperChar c else [c]) ++ classNameFrom false rest
    else classNameFrom true rest

/-- The class name for a display name: its words without anything between them, each with its
first letter in upper case and the others as written. Apostrophes end no word. -/
def className (displayName : Text) : Text := classNameFrom true displayName

/-- The key of a class, under which its record is kept. -/
def key (className : Text) : Text := lower className

/-- Where the source of a class lies below the root of all sources. -/
def sourcePath (className : Text) : Text :=
  lower className ++ '/' :: className ++ ".java".toList

/-- A text without the slashes at its end. -/
def trimSlashes (base : Text) : Text := (base.reverse.dropWhile (· == '/')).reverse

/-- Where the source of a class lies below a base. -/
def sourceUrl (base className : Text) : Text := trimSlashes base ++ '/' :: sourcePath className

/-- The file name of the record of a key. -/
def recordFile (key : Text) : Text := key ++ ".json".toList

end QuestRecords.Naming
