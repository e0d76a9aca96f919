import QuestRecords.Batch.Run
import QuestRecords.Command.ScrapeRequest
import QuestRecords.Proofs.Pipeline.Processing
import QuestRecords.Proofs.Settings.FileKeys
import QuestRecords.Settings.Environment

/-! How settings are layered. A setting is given by the command line, by a settings file and by the
environment, and it has a usual value; the first of these that gives one decides, for each setting
by itself. A batch whose settings pass their check is begun. -/
namespace QuestRecords

/-- The values of a setting at the places that it can be given at, the highest first. -/
structure Layers (α : Type) where
  flag : Option α := none
  file : Option α := none
  environment : Option α := none
  usual : α

def Layers.value (layers : Layers α) : α :=
  (layers.flag.or (layers.file.or layers.environment)).getD layers.usual

theorem Layers.value_eq (layers : Layers α) : layers.value =
    layers.flag.getD (layers.file.getD (layers.environment.getD layers.usual)) := by
  rw [value, Option.getD_or, Option.getD_or]

/-- A setting, by the type of its values. -/
inductive Setting : Type → Type where
  | level : Setting Level
  | structured : Setting Bool
  | namesInput : Setting Bool
  | baseUrl : Setting String
  | timeoutSeconds : Setting Nat
  | userAgent : Setting String
  | sizeLimit : Setting Nat
  | outputDirectory : Setting String
  | threads : Setting Nat
  | writesReport : Setting Bool

def Settings.value (settings : Settings) : Setting α → α
  | .level => settings.logging.threshold
  | .structured => settings.logging.backend = .structured
  | .namesInput => settings.logging.namesInput
  | .baseUrl => settings.fetch.baseUrl
  | .timeoutSeconds => settings.fetch.timeoutSeconds
  | .userAgent => settings.fetch.userAgent
  | .sizeLimit => settings.fetch.sizeLimit
  | .outputDirectory => settings.batch.outputDirectory
  | .threads => settings.batch.threads
  | .writesReport => settings.batch.writesReport

/-- What the settings of a run are made of: the command line, the root table of the settings file
and the environment. -/
structure SettingSources where
  overrides : Overrides := {}
  processors : Nat := 1
  root : Toml.Entries := []
  environment : Environment := fun _ => none

namespace SettingSources

def file (sources : SettingSources) : SettingsFile := .ofRoot sources.root

/-- A flag without a value can only say yes. -/
def yes? (given : Bool) : Option Bool := if given then some true else none

def level? (name? : Option String) : Option Level :=
  name?.bind fun name => Level.ofName? name.toList

def layers (sources : SettingSources) : Setting α → Layers α
  | .level => {
      flag := level? sources.overrides.level
      file := level? (SettingsFile.Key.level.given? sources.root)
      environment := level? (sources.environment "QUEST_LOG_LEVEL")
      usual := .info }
  | .structured => {
      flag := yes? sources.overrides.structured
      file := SettingsFile.Key.structured.given? sources.root
      environment := (sources.environment "QUEST_STRUCTURED_LOGS").bind Environment.truth?
      usual := false }
  | .namesInput => { usual := true }
  | .baseUrl => {
      flag := sources.overrides.baseUrl
      file := SettingsFile.Key.baseUrl.given? sources.root
      environment := sources.environment "QUEST_SOURCE_BASE_URL"
      usual := FetchSettings.baseUrl {} }
  | .timeoutSeconds => {
      flag := sources.overrides.timeoutSeconds
      file := SettingsFile.Key.timeoutSeconds.given? sources.root
      environment := (sources.environment "QUEST_FETCH_TIMEOUT_SECS").bind Environment.unsigned?
      usual := 30 }
  | .userAgent => { usual := FetchSettings.userAgent {} }
  | .sizeLimit => {
      file := SettingsFile.Key.sizeLimit.given? sources.root
      usual := Source.usualSizeLimit }
  | .outputDirectory => {
      flag := sources.overrides.outputDirectory
      file := SettingsFile.Key.outputDirectory.given? sources.root
      environment := sources.environment "QUEST_OUTPUT_DIR"
      usual := "quests" }
  | .threads => {
      flag := sources.overrides.threads.map fun threads =>
        if threads = 0 then min sources.processors BatchSettings.threadLimit else threads
      file := SettingsFile.Key.threads.given? sources.root
      environment := (sources.environment "QUEST_MAX_THREADS").bind Environment.unsigned?
      usual := 1 }
  | .writesReport => {
      flag := yes? sources.overrides.writesReport
      file := SettingsFile.Key.writesReport.given? sources.root
      usual := false }

/-- The settings with the value of each setting from its layers. -/
def settings (sources : SettingSources) : Settings where
  logging := {
    threshold := (sources.layers .level).value
    backend := if (sources.layers .structured).value then .structured else .facade
    namesInput := (sources.layers .namesInput).value }
  fetch := {
    baseUrl := (sources.layers .baseUrl).value
    timeoutSeconds := (sources.layers .timeoutSeconds).value
    userAgent := (sources.layers .userAgent).value
    sizeLimit := (sources.layers .sizeLimit).value }
  batch := {
    outputDirectory := (sources.layers .outputDirectory).value
    threads := (sources.layers .threads).value
    writesReport := (sources.layers .writesReport).value }

/-- The root table of the settings file at a path, which is empty if no path is named. -/
def Reads {σ : Type} (files : FileAccess (StateM σ)) (path? : Option String) (before : σ)
    (root : Toml.Entries) : Prop :=
  match path? with
  | none => root = []
  | some path => ∃ text, ((files.readText path).run before).1 = .ok text ∧
      Toml.parse? text.toList = some root

end SettingSources

/-- A batch with an allowed number of threads is begun. -/
theorem Batch.yields_run {m : Type → Type} [Monad m] [LawfulMonad m] (workplace : Workplace m)
    {settings : BatchSettings} (allowed : BatchSettings.allowsThreads settings.threads = true)
    (names : List String) :
    Offsets.Yields (fun result => ∃ results, result = .ok results)
      (run workplace settings names) := by
  have begun (results : BatchResults) :
      Offsets.Yields
        (fun result : Except BatchError BatchResults => ∃ results, result = .ok results)
        (pure (.ok results) : m _) :=
    Offsets.yields_pure ⟨results, rfl⟩
  rw [run, allowed]
  refine Offsets.yields_bind fun started => Offsets.yields_bind fun _ => ?_
  dsimp only
  -- Whoever attempts the quests, and whether a report is written, the results are told last.
  split
  all_goals
    refine Offsets.yields_bind fun outcomes => ?_
    split
    · exact Offsets.yields_bind fun _ => Offsets.yields_bind fun _ => Offsets.yields_bind fun _ =>
        Offsets.yields_bind fun _ => begun _
    · exact Offsets.yields_bind fun _ => begun _

end QuestRecords
