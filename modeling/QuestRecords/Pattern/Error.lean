import QuestRecords.Text.Basic

/-! What is wrong with the text of a pattern, and where. -/
namespace QuestRecords

inductive PatternFault where
  | backreference
  | boundaryUnclosed
  | boundaryUnknown
  | classEscape
  | classUnclosed
  | countEmpty
  | countOrder
  | countOrBoundaryUnclosed
  | countTooLarge
  | countUnclosed
  | escapeUnclosed
  | escapeUnknown
  | flagRepeated
  | flagsUnclosed
  | flagUnknown
  | groupUnclosed
  | groupUnopened
  | hexDigit
  | hexEmpty
  | hexValue
  | lookAround
  | nameEmpty
  | nameInvalid
  | nameRepeated
  | nameUnclosed
  | negationDangling
  | negationRepeated
  | nothingToRepeat
  | notOfCharacters
  | propertyForbidden
  | propertyInvalid
  | propertyUnknown
  | rangeBoundary
  | rangeOrder
  deriving DecidableEq

namespace PatternFault

def message : PatternFault → String
  | backreference => "backreferences are not supported"
  | boundaryUnclosed => "special word boundary assertion is either unclosed or contains an " ++
      "invalid character"
  | boundaryUnknown => "unrecognized special word boundary assertion, valid choices are: " ++
      "start, end, start-half or end-half"
  | classEscape => "invalid escape sequence found in character class"
  | classUnclosed => "unclosed character class"
  | countEmpty => "repetition quantifier expects a valid decimal"
  | countOrder => "invalid repetition count range, the start must be <= the end"
  | countOrBoundaryUnclosed => "found either the beginning of a special word boundary or a " ++
      "bounded repetition on a \\b with an opening brace, but no closing brace"
  | countTooLarge => "decimal literal invalid"
  | countUnclosed => "unclosed counted repetition"
  | escapeUnclosed => "incomplete escape sequence, reached end of pattern prematurely"
  | escapeUnknown => "unrecognized escape sequence"
  | flagRepeated => "duplicate flag"
  | flagsUnclosed => "expected flag but got end of regex"
  | flagUnknown => "unrecognized flag"
  | groupUnclosed => "unclosed group"
  | groupUnopened => "unopened group"
  | hexDigit => "invalid hexadecimal digit"
  | hexEmpty => "hexadecimal literal empty"
  | hexValue => "hexadecimal literal is not a Unicode scalar value"
  | lookAround => "look-around, including look-ahead and look-behind, is not supported"
  | nameEmpty => "empty capture group name"
  | nameInvalid => "invalid capture group character"
  | nameRepeated => "duplicate capture group name"
  | nameUnclosed => "unclosed capture group name"
  | negationDangling => "dangling flag negation operator"
  | negationRepeated => "flag negation operator repeated"
  | nothingToRepeat => "repetition operator missing expression"
  | notOfCharacters => "pattern can match invalid UTF-8"
  | propertyForbidden => "Unicode not allowed here"
  | propertyInvalid => "invalid Unicode character class"
  | propertyUnknown => "Unicode property not found"
  | rangeBoundary => "invalid range boundary, must be a literal"
  | rangeOrder => "invalid character class range, the start must be <= the end"

end PatternFault

/-- A part of a pattern: how many characters of the pattern are left where the part starts, and
how many where it stops. -/
structure PatternPart where
  ahead : Nat
  behind : Nat

namespace PatternPart

/-- The part between two places, each given by the text ahead of it. -/
def between (start stop : Text) : PatternPart := ⟨start.length, stop.length⟩

/-- Marks below a text of some length, from a column on, for the parts in their order. A part
without characters has one mark. -/
def marks (length column : Nat) : List PatternPart → Text
  | [] => []
  | part :: rest =>
    let start := length - part.ahead
    let width := max 1 (part.ahead - part.behind)
    List.replicate (start - column) ' ' ++ List.replicate width '^' ++
      marks length (max start column + width) rest

end PatternPart

/-- A fault and the part that it lies in; for what is repeated, also the part that has it first. -/
structure PatternError where
  fault : PatternFault
  first : Option PatternPart := none
  part : PatternPart

/-- Shows the pattern, marks the parts in it, and names the fault. -/
def PatternError.message (error : PatternError) (pattern : Text) : String :=
  let marks := PatternPart.marks pattern.length 0 (error.first.toList ++ [error.part])
  "regex parse error:\n    " ++ String.ofList pattern ++ "\n    " ++ String.ofList marks ++
    "\nerror: " ++ error.fault.message

end QuestRecords
