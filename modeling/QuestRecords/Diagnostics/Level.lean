import QuestRecords.Text.Blank

/-! Levels of log events. A threshold lets through its own level and all that are more severe. -/
namespace QuestRecords

inductive Level where
  | error
  | warning
  | info
  | debug
  deriving DecidableEq

namespace Level

/-- The place among the levels, the most severe first. -/
def rank : Level → Nat
  | error => 0
  | warning => 1
  | info => 2
  | debug => 3

def label : Level → String
  | error => "ERROR"
  | warning => "WARN"
  | info => "INFO"
  | debug => "DEBUG"

/-- Whether an event of this level passes a threshold. -/
def passes (level threshold : Level) : Bool := level.rank ≤ threshold.rank

/-- The level of a name, blanks around it and the case of ASCII letters aside. -/
def ofName? (name : Text) : Option Level :=
  let word := String.ofList ((Text.trim name).map Char.toLower)
  if word = "error" then some error
  else if word = "warn" ∨ word = "warning" then some warning
  else if word = "info" then some info
  else if word = "debug" ∨ word = "trace" then some debug
  else none

end Level
end QuestRecords
