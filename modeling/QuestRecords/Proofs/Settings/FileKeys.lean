import QuestRecords.Settings.File

namespace QuestRecords.SettingsFile

open Toml

/-- The keys of a section, in the order in which an array holds their values. -/
def keysOf : String → List String
  | "logging" => ["level", "structured"]
  | "fetch" => ["base_url", "timeout_secs", "max_source_bytes"]
  | "batch" => ["output_dir", "max_threads", "write_report"]
  | _ => []

/-- A section as a table; an array gives its values to the keys in order. -/
def entriesOf (keys : List String) : Value → Entries
  | .table _ entries => entries
  | .array items => keys.zip items
  | .tables items => keys.zip (items.map (.table .header))
  | _ => []

/-- What stands under a key of a section. -/
def valueAt? (root : Entries) (place : String × String) : Option Value :=
  (root.lookup place.1).bind fun value => (entriesOf (keysOf place.1) value).lookup place.2

/-- A key of a settings file, by the type of its values. -/
inductive Key : Type → Type where
  | level : Key String
  | structured : Key Bool
  | baseUrl : Key String
  | timeoutSeconds : Key Nat
  | sizeLimit : Key Nat
  | outputDirectory : Key String
  | threads : Key Nat
  | writesReport : Key Bool

namespace Key

/-- The section of a key, and its name there. -/
def place : Key α → String × String
  | level => ("logging", "level")
  | structured => ("logging", "structured")
  | baseUrl => ("fetch", "base_url")
  | timeoutSeconds => ("fetch", "timeout_secs")
  | sizeLimit => ("fetch", "max_source_bytes")
  | outputDirectory => ("batch", "output_dir")
  | threads => ("batch", "max_threads")
  | writesReport => ("batch", "write_report")

def read? : Key α → Value → Option α
  | level | baseUrl | outputDirectory => text?
  | timeoutSeconds | sizeLimit | threads => natural?
  | structured | writesReport => truth?

/-- The value that is given for a key. -/
def given? (key : Key α) (root : Entries) : Option α := (valueAt? root key.place).bind key.read?

end Key

/-- The values that are given for all keys. -/
def ofRoot (root : Entries) : SettingsFile where
  level := Key.level.given? root
  structured := Key.structured.given? root
  baseUrl := Key.baseUrl.given? root
  timeoutSeconds := Key.timeoutSeconds.given? root
  sizeLimit := Key.sizeLimit.given? root
  outputDirectory := Key.outputDirectory.given? root
  threads := Key.threads.given? root
  writesReport := Key.writesReport.given? root

/-- Whatever stands under a key is a value of it. -/
def Key.Readable (root : Entries) (key : Key α) : Prop :=
  ∀ value, valueAt? root key.place = some value → (key.read? value).isSome = true

section

variable {root : Entries} {file next : SettingsFile}

end

end QuestRecords.SettingsFile
