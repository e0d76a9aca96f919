import QuestRecords.Diagnostics.Level
import QuestRecords.Pattern.Parser

/-! Filters for the log of the system. A filter says from which level on the records of a target are
shown, and may also ask for a pattern that occurs in them. -/
namespace QuestRecords

/-- The records of the targets whose names start with `name`, or of all targets, are shown if they
are not beyond `limit`. Without a limit none is shown. -/
structure FilterDirective where
  name : Option String
  limit : Option Level

structure RecordFilter where
  directives : List FilterDirective
  pattern : Option Pattern := none

/-- What is wrong with the text of a filter. -/
inductive FilterFault where
  | tooManyParts (text : String)
  | directive (text : String)
  | pattern (text : Text) (error : PatternError)

namespace FilterFault

def message : FilterFault → String
  | tooManyParts text => "invalid logging spec '" ++ text ++ "' (too many '/'s)"
  | directive text => "invalid logging spec '" ++ text ++ "'"
  | pattern text error => "invalid regex filter - " ++ error.message text

/-- What is told of a fault: its part of the filter does not count. -/
def warning (fault : FilterFault) : String := "warning: " ++ fault.message ++ ", ignoring it"

end FilterFault

namespace FilterDirective

/-- The limit that a word names. No event is finer than those of the level for debugging. -/
def limitOf? (word : String) : Option (Option Level) :=
  let word := word.map Char.toLower
  if word = "off" then some none
  else if word = "error" then some (some .error)
  else if word = "warn" then some (some .warning)
  else if word = "info" then some (some .info)
  else if word = "debug" ∨ word = "trace" then some (some .debug)
  else none

def trimmed (text : String) : String := String.ofList (Text.trim text.toList)

/-- Reads a directive: a limit for all targets, the name of targets that are shown without limit,
or a name and its limit around an equals sign. -/
def ofText (text : String) : Except FilterFault FilterDirective :=
  match text.splitOn "=" with
  | [word] =>
    match limitOf? word with
    | some limit => .ok ⟨none, limit⟩
    | none => .ok ⟨some word, some .debug⟩
  | [name, word] =>
    if (trimmed word).isEmpty then .ok ⟨some name, some .debug⟩
    else match limitOf? (trimmed word) with
      | some limit => .ok ⟨some name, limit⟩
      | none => .error (.directive (trimmed word))
  | _ => .error (.directive text)

/-- The length of the name in bytes. -/
def width (directive : FilterDirective) : Nat :=
  match directive.name with
  | some name => name.utf8ByteSize
  | none => 0

/-- Whether the directive is about a target. -/
def concerns (directive : FilterDirective) (target : String) : Bool :=
  directive.name.all fun name => name.toList.isPrefixOf target.toList

/-- Adds a directive. It takes the place of one for the same name. -/
def addTo (directives : List FilterDirective) (directive : FilterDirective) :
    List FilterDirective :=
  if directives.any (·.name = directive.name) then
    directives.map fun other => if other.name = directive.name then directive else other
  else directives ++ [directive]

end FilterDirective

namespace RecordFilter

/-- Shows the records of all targets up to a level. -/
def upTo (limit : Level) : RecordFilter := { directives := [⟨none, some limit⟩] }

/-- A filter of directives. If there are none, errors are shown. -/
def ofDirectives (directives : List FilterDirective) (pattern : Option Pattern) : RecordFilter :=
  { directives := if directives.isEmpty then [⟨none, some .error⟩] else directives, pattern }

/-- Reads directives between commas: what they say, and what is wrong with others. -/
def directivesOf (text : String) : List FilterDirective × List FilterFault :=
  let parts := ((text.splitOn ",").map FilterDirective.trimmed).filter (!·.isEmpty)
  parts.foldl (fun (directives, faults) part =>
    match FilterDirective.ofText part with
    | .ok directive => (FilterDirective.addTo directives directive, faults)
    | .error fault => (directives, faults ++ [fault])) ([], [])

/-- Reads a filter: directives, and behind a slash a pattern. What is wrong with it is told, and
the rest of it holds. -/
def ofText (text : String) : RecordFilter × List FilterFault :=
  match text.splitOn "/" with
  | [directives] =>
    let (directives, faults) := directivesOf directives
    (ofDirectives directives none, faults)
  | [directives, pattern] =>
    let (directives, faults) := directivesOf directives
    match Pattern.ofText pattern.toList with
    | .ok pattern => (ofDirectives directives (some pattern), faults)
    | .error error => (ofDirectives directives none, faults ++ [.pattern pattern.toList error])
  | _ => (ofDirectives [] none, [.tooManyParts text])

/-- Of two directives the one with the longer name, and of names of one length the later one. -/
def closer (found : Option FilterDirective) (next : FilterDirective) : Option FilterDirective :=
  match found with
  | some found => if next.width < found.width then some found else some next
  | none => some next

/-- The directive that decides about a target. -/
def decisive? (filter : RecordFilter) (target : String) : Option FilterDirective :=
  (filter.directives.filter (·.concerns target)).foldl closer none

/-- Whether a record of a level is shown for a target. -/
def shows (filter : RecordFilter) (target : String) (level : Level) (record : String) : Bool :=
  ((filter.decisive? target).bind (·.limit)).any level.passes &&
    filter.pattern.all (·.occursIn record.toList)

end RecordFilter
end QuestRecords
