import QuestRecords.Pipeline.Attempt
import QuestRecords.Proofs.Offsets.Extracting

/-! Processing a source by offsets. A fault on the way to the record is an extraction error and
ends the attempt; no source that an offset of 31 bits can span leads to one. -/
namespace QuestRecords.Offsets

open Text

def extractAndAssemble (displayName : String) (source : Text) :
    Guarded (Extraction × Assembly) := do
  let extraction ← extractAll source
  return (extraction, ← Assembly.ofExtraction displayName extraction)

/-- The record of the quest of a display name, from its source. A fault becomes an error with a
message that describes it. -/
def processSource (describe : Fault → String) (displayName : String) (source : Text) :
    Logged (Except PipelineError ExtractedQuest) := do
  let className ← ExtractedQuest.classNameOf displayName source
  match ← (extractAndAssemble displayName source).run with
  | .error fault => return .error (.extraction (describe fault))
  | .ok found =>
    let quest : ExtractedQuest := {
      record := found.2.record
      className
      key := String.ofList (Naming.key className.toList)
      missing := found.1.missing
      danglingSteps := found.2.danglingSteps.length
      unresolvedItems := found.2.unresolvedItems.length }
    Logged.raise quest.doneMessage
    return .ok quest

/-- Attempts the quest of a display name; the attempt ends when processing its source does. -/
def attempt [Monad m] (describe : Fault → String) (entering : Stage → List Event)
    (fetcher : Fetcher m) (output : Output m) (displayName : String) : m Attempt := do
  let className := String.ofList (Naming.className displayName.toList)
  let location := fetcher.location className
  let fetching := Attempt.begun entering className location
  match ← fetcher.fetch className with
  | .brokeDown => return fetching.ending (.error (.breakdown fetching.stage))
  | .failed error => return fetching.ending (.error (.failed (.fetch className error)))
  | .source source =>
    let processed := processSource describe displayName source
    let extracted := Attempt.extracting fetching entering location source processed.events
    match processed.value with
    | .error error => return extracted.ending (.error (.failed error))
    | .ok quest =>
      return Attempt.ofWritten quest (extracted.enter entering .writing)
        (← output.writeRecord quest.key quest.record)

/-- Every result of an action has a property. -/
def Yields [Monad m] (holds : α → Prop) (action : m α) : Prop :=
  ∃ results : m { value : α // holds value }, Subtype.val <$> results = action

/-- What was fetched is no source, or one so short that 31 bits hold its offsets. -/
def ShortSource : Fetched → Prop
  | .source source => width source < 0x80000000
  | _ => True

/-- An attempt did not end with extracting. -/
def PassesExtracting (attempt : Attempt) : Prop :=
  ∀ failure, attempt.result = .error failure → failure.stage ≠ .extracting

theorem run_liftM (action : Logged α) :
    ExceptT.run (liftM action : Guarded α) = Except.ok <$> action := rfl

theorem extractAndAssemble_returns {source : Text} (fits : width source < 0x80000000)
    (displayName : String) :
    extractAndAssemble displayName source = liftM (do
      let extraction ← Extraction.ofSource source
      return (extraction, ← Assembly.ofExtraction displayName extraction)) := by
  rw [extractAndAssemble, extractAll_returns fits]
  simp only [liftM_bind, liftM_pure]

theorem processSource_returns {source : Text} (fits : width source < 0x80000000)
    (describe : Fault → String) (displayName : String) :
    processSource describe displayName source =
      .ok <$> ExtractedQuest.ofSource displayName source := by
  rw [processSource, extractAndAssemble_returns fits, run_liftM, ExtractedQuest.ofSource]
  simp only [bind_assoc, pure_bind, map_bind, map_pure]

theorem events_map (change : α → β) (action : Logged α) :
    (change <$> action).events = action.events := by
  rw [← bind_pure_comp, Logged.events_bind]
  exact List.append_nil action.events

section

variable {m : Type → Type} [Monad m] [LawfulMonad m]

theorem yields_pure {holds : α → Prop} {value : α} (held : holds value) :
    Yields holds (pure value : m α) :=
  ⟨pure ⟨value, held⟩, map_pure ..⟩

theorem yields_bind {holds : β → Prop} {action : m α} {next : α → m β}
    (each : ∀ value, Yields holds (next value)) : Yields holds (action >>= next) := by
  refine ⟨action >>= fun value => (each value).choose, ?_⟩
  rw [map_bind]
  congr 1
  funext value
  exact (each value).choose_spec

theorem yields_run (entering : Stage → List Event) (fetcher : Fetcher m) (output : Output m)
    (displayName : String) :
    Yields PassesExtracting (Attempt.run entering fetcher output displayName) := by
  apply yields_bind
  intro fetched
  cases fetched with
  | brokeDown =>
    apply yields_pure
    intro failure ended
    cases ended
    exact Stage.noConfusion
  | failed error =>
    apply yields_pure
    intro failure ended
    cases ended
    exact Stage.noConfusion
  | source source =>
    apply yields_bind
    intro written
    apply yields_pure
    intro failure ended
    cases written with
    | ok path => cases ended
    | error error =>
      cases ended
      exact Stage.noConfusion

/-- Attempts on short sources do by offsets what they do without. -/
theorem attempt_eq_run {fetcher : Fetcher m}
    (short : ∀ className, Yields ShortSource (fetcher.fetch className)) (describe : Fault → String)
    (entering : Stage → List Event) (output : Output m) (displayName : String) :
    attempt describe entering fetcher output displayName =
      Attempt.run entering fetcher output displayName := by
  obtain ⟨results, same⟩ := short (String.ofList (Naming.className displayName.toList))
  rw [attempt, Attempt.run, ← same, bind_map_left, bind_map_left]
  congr 1
  funext fetched
  obtain ⟨fetched, fits⟩ := fetched
  cases fetched with
  | brokeDown => rfl
  | failed error => rfl
  | source source =>
    simp only [processSource_returns fits, events_map]
    rfl

end

/-- Whatever a short source says, processing it gives a record, and no attempt on it ends with
extracting. -/
theorem processing_returns (describe : Fault → String) (displayName : String) :
    (∀ source, width source < 0x80000000 →
      (processSource describe displayName source).value =
        .ok (ExtractedQuest.ofSource displayName source).value) ∧
    ∀ {m : Type → Type} [Monad m] [LawfulMonad m] (entering : Stage → List Event)
      (fetcher : Fetcher m) (output : Output m),
      (∀ className, Yields ShortSource (fetcher.fetch className)) →
        Yields PassesExtracting (attempt describe entering fetcher output displayName) := by
  constructor
  · intro source fits
    rw [processSource_returns fits]
    rfl
  · intro m _ _ entering fetcher output short
    rw [attempt_eq_run short]
    exact yields_run entering fetcher output displayName

/-- A source that breaks off inside a literal, behind an escape and a character of two bytes. -/
def brokenOff : Text := "x = new ItemRequirement(\"ä\\é".toList

/-- A fetcher that gives the source that breaks off. -/
def brokenOffFetcher : Fetcher Id := ⟨id, fun _ => .source brokenOff⟩

theorem processing_returns_brokenOff :
    width brokenOff < 0x80000000 ∧
    (processSource (fun _ => "") "Ä" brokenOff).value =
      .ok (ExtractedQuest.ofSource "Ä" brokenOff).value ∧
    (∀ className, Yields ShortSource (brokenOffFetcher.fetch className)) ∧
    Yields PassesExtracting
      (attempt (fun _ => "") (fun _ => []) brokenOffFetcher ⟨id, fun _ _ => .ok ()⟩ "Ä") := by
  have fits : width brokenOff < 0x80000000 := by decide
  have short : ∀ className, Yields ShortSource (brokenOffFetcher.fetch className) :=
    fun _ => ⟨⟨.source brokenOff, fits⟩, rfl⟩
  have returns := processing_returns (fun _ => "") "Ä"
  exact ⟨fits, returns.1 brokenOff fits, short, returns.2 (fun _ => []) brokenOffFetcher _ short⟩

end QuestRecords.Offsets
