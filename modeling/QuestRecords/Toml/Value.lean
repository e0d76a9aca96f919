import QuestRecords.Text.Basic

/-! TOML values. Floating numbers and times keep their spelling; nothing here computes with them. -/
namespace QuestRecords.Toml

/-- How a table came into being, which decides how it may be extended. -/
inductive Origin where
  /-- By its own header. -/
  | header
  /-- On the way to a table named in a header. -/
  | implied
  /-- By a dotted key. -/
  | dotted
  /-- As a value in braces; such a table is complete. -/
  | inline
  deriving DecidableEq

inductive Value where
  | string (value : Text)
  | integer (value : Int)
  | boolean (value : Bool)
  | float (written : Text)
  | dateTime (written : Text)
  | array (items : List Value)
  | table (origin : Origin) (entries : List (String × Value))
  /-- The tables of one repeated header. -/
  | tables (items : List (List (String × Value)))

abbrev Entries := List (String × Value)

end QuestRecords.Toml
