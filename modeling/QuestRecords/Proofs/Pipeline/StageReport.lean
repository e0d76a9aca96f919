import QuestRecords.Batch.Workplace
import QuestRecords.Proofs.Pipeline.Processing
import QuestRecords.Proofs.Pipeline.RecordWrite

/-! What attempts report of their stages. The stages that were entered are a beginning of all three,
an attempt that ends early ends at the last of them, and one that never came to writing has changed
nothing since its source was fetched. What becomes of a quest says the same. -/
namespace QuestRecords

/-- A way to make quests of sources, which fails only with errors of extraction. -/
structure Processing where
  process : String → Text → Logged (Except PipelineError ExtractedQuest)
  stage_of_error : ∀ displayName source error,
    (process displayName source).value = .error error → error.stage = .extracting

namespace Processing

/-- Extraction that always gives a quest. -/
def plain : Processing where
  process displayName source := .ok <$> ExtractedQuest.ofSource displayName source
  stage_of_error _ _ _ failed := nomatch failed

theorem offsets_stage_of_error (describe : Offsets.Fault → String) (displayName : String)
    (source : Text) (error : PipelineError)
    (failed : (Offsets.processSource describe displayName source).value = .error error) :
    error.stage = .extracting := by
  rw [Offsets.processSource, Logged.value_bind, Logged.value_bind] at failed
  split at failed
  · cases failed
    rfl
  · cases failed

/-- Extraction by offsets, in which a fault is an error. -/
def byOffsets (describe : Offsets.Fault → String) : Processing where
  process := Offsets.processSource describe
  stage_of_error := offsets_stage_of_error describe

/-- The quest that is made of what was fetched. -/
def quest? (processing : Processing) (displayName : String) : Fetched → Option ExtractedQuest
  | .source source => (processing.process displayName source).value.toOption
  | _ => none

def attempt [Monad m] (processing : Processing) (entering : Stage → List Event)
    (fetcher : Fetcher m) (output : Output m) (displayName : String) : m Attempt := do
  let className := askedFor displayName
  let location := fetcher.location className
  let fetching := Attempt.begun entering className location
  match ← fetcher.fetch className with
  | .brokeDown => return fetching.ending (.error (.breakdown fetching.stage))
  | .failed error => return fetching.ending (.error (.failed (.fetch className error)))
  | .source source =>
    let processed := processing.process displayName source
    let extracted := Attempt.extracting fetching entering location source processed.events
    match processed.value with
    | .error error => return extracted.ending (.error (.failed error))
    | .ok quest =>
      return Attempt.ofWritten quest (extracted.enter entering .writing)
        (← output.writeRecord quest.key quest.record)

theorem attempt_byOffsets [Monad m] (describe : Offsets.Fault → String)
    (entering : Stage → List Event) (fetcher : Fetcher m) (output : Output m)
    (displayName : String) :
    (byOffsets describe).attempt entering fetcher output displayName =
      Offsets.attempt describe entering fetcher output displayName := rfl

theorem attempt_plain [Monad m] (entering : Stage → List Event) (fetcher : Fetcher m)
    (output : Output m) (displayName : String) :
    plain.attempt entering fetcher output displayName =
      Attempt.run entering fetcher output displayName := by
  rw [attempt, Attempt.run]
  congr 1
  funext fetched
  cases fetched with
  | brokeDown => rfl
  | failed error => rfl
  | source source =>
    simp only [plain, Offsets.events_map]
    rfl

end Processing

namespace Attempt

/-- What an attempt comes to when the record of a quest was written, or could not be. -/
def writingEnd (quest : ExtractedQuest) :
    Except PersistError String → Except Failure (ExtractedQuest × String)
  | .ok path => .ok (quest, path)
  | .error error => .error (.failed (.persist quest.key error))

/-- What is told of writing. -/
def toldOfWriting : Except PersistError String → List Event
  | .ok path => [writtenMessage path]
  | .error _ => []

theorem events_extracting (entering : Stage → List Event) (className location : String)
    (source : Text) (told : List Event) :
    (extracting (begun entering className location) entering location source told).events =
      entering .fetching ++ ([fetchingMessage className location, fetchedMessage location source] ++
        (entering .extracting ++ told)) := by
  rw [extracting, begun]
  simp only [Progress.enter, Progress.raise, List.nil_append, List.append_assoc,
    List.singleton_append]

theorem ofWritten_eq (quest : ExtractedQuest) (progress : Progress)
    (written : Except PersistError String) :
    ofWritten quest progress written =
      (progress.raise (toldOfWriting written)).ending (writingEnd quest written) := by
  cases written with
  | ok path => rfl
  | error error =>
    rw [toldOfWriting, Progress.raise, List.append_nil]
    rfl

end Attempt

/-- How an attempt went: the stages that it entered, each with what was told on it, what it came to,
and the state that it left. -/
structure Course (σ : Type) where
  log : List (Stage × List Event)
  result : Except Failure (ExtractedQuest × String)
  last : σ

namespace Course

variable {σ : Type}

def stages (course : Course σ) : List Stage := course.log.map Prod.fst

def attempt (course : Course σ) (entering : Stage → List Event) : Attempt where
  stages := course.stages
  result := course.result
  events := course.log.flatMap fun (stage, told) => entering stage ++ told

/-- The stages of an attempt agree with what it came to, where a quest was extracted or not and
fetching left a state. -/
structure Agrees (course : Course σ) (output : Output (StateM σ)) (quest? : Option ExtractedQuest)
    (fetched : σ) : Prop where
  inOrder : course.stages <+: [.fetching, .extracting, .writing]
  done_iff : ∀ quest path, course.result = .ok (quest, path) ↔
    course.stages = [.fetching, .extracting, .writing] ∧ quest? = some quest ∧
      (output.writeRecord quest.key quest.record).run fetched = (.ok path, course.last)
  atPath : ∀ quest path, course.result = .ok (quest, path) → path = output.recordPath quest.key
  endsAt : ∀ failure, course.result = .error failure →
    course.stages.getLast? = some failure.stage
  untouched : .writing ∉ course.stages → course.last = fetched

/-- An outcome says of a quest what its attempt came to. -/
structure Tells (course : Course σ) (outcome : Outcome) : Prop where
  done_iff : ∀ key path, outcome.ending = .done key path ↔
    ∃ quest, course.result = .ok (quest, path) ∧ quest.key = key
  skipped : ∀ failure, course.result = .error failure → ∃ stage,
    course.stages.getLast? = some stage ∧
      outcome.ending = .skipped stage failure.code failure.message ∧
        outcome.key? = none ∧ outcome.path? = none

section

variable {course : Course σ} {output : Output (StateM σ)} {quest? : Option ExtractedQuest}
  {fetched : σ}

theorem Agrees.of_early {failure : Failure} (failed : course.result = .error failure)
    (early : course.stages <+: [.fetching, .extracting])
    (atLast : course.stages.getLast? = some failure.stage) (left : course.last = fetched) :
    course.Agrees output quest? fetched where
  inOrder := early.trans ⟨[.writing], rfl⟩
  done_iff quest path := by
    constructor
    · intro finished
      cases failed.symm.trans finished
    · rintro ⟨all, -, -⟩
      have short := early.length_le
      rw [all] at short
      exact absurd short (by decide)
  atPath quest path finished := by cases failed.symm.trans finished
  endsAt other ended := by
    cases failed.symm.trans ended
    exact atLast
  untouched _ := left

theorem path_of_writeRecord {key : String} {record : QuestRecord} {path : String} {last : σ}
    (wrote : (output.writeRecord key record).run fetched = (.ok path, last)) :
    path = output.recordPath key := by
  obtain ⟨result, left, ran⟩ := exists_run
    (output.put (output.recordPath key) record.toJson.pretty) fetched
  rw [Output.recordPath] at ran
  simp only [Output.writeRecord, Output.writeDocument, StateT.run_bind, ran] at wrote
  cases result with
  | ok _ =>
    cases wrote
    rfl
  | error error => cases wrote

/-- An attempt that comes to writing ends as the writing does. -/
theorem Agrees.of_writing {quest : ExtractedQuest} {result : Except PersistError String}
    (extracted : quest? = some quest)
    (all : course.stages = [.fetching, .extracting, .writing])
    (wrote : (output.writeRecord quest.key quest.record).run fetched = (result, course.last))
    (ended : course.result = Attempt.writingEnd quest result) :
    course.Agrees output quest? fetched where
  inOrder := ⟨[], by rw [all, List.append_nil]⟩
  done_iff other path := by
    rw [extracted]
    cases result with
    | ok written =>
      rw [ended]
      constructor
      · intro finished
        cases finished
        exact ⟨all, rfl, wrote⟩
      · rintro ⟨-, same, again⟩
        cases same
        cases wrote.symm.trans again
        rfl
    | error error =>
      rw [ended]
      constructor
      · intro finished
        cases finished
      · rintro ⟨-, same, again⟩
        cases same
        cases wrote.symm.trans again
  atPath other path finished := by
    cases result with
    | ok written =>
      cases ended.symm.trans finished
      exact path_of_writeRecord wrote
    | error error => cases ended.symm.trans finished
  endsAt failure failed := by
    cases result with
    | ok written => cases ended.symm.trans failed
    | error error =>
      cases ended.symm.trans failed
      rw [all]
      rfl
  untouched unwritten := absurd (by simp [all]) unwritten

theorem Agrees.tells_ofResult (agrees : course.Agrees output quest? fetched) (number : Nat)
    (name : String) : course.Tells (Outcome.ofResult number name course.result) := by
  have endsAt := agrees.endsAt
  constructor
  · intro key path
    cases course.result with
    | ok done => simp [Outcome.ofResult, Prod.ext_iff, and_comm]
    | error failure => simp [Outcome.ofResult]
  · intro failure failed
    refine ⟨failure.stage, endsAt failure failed, ?_⟩
    rw [failed]
    exact ⟨rfl, rfl, rfl⟩

end

end Course

namespace Processing

variable {σ : Type}

/-- An attempt is told by one course, however the stages are announced. -/
theorem exists_course (processing : Processing) (fetcher : Fetcher (StateM σ))
    (output : Output (StateM σ)) (displayName : String) (before : σ) :
    let fetching := (fetcher.fetch (askedFor displayName)).run before
    ∃ course : Course σ,
      (∀ entering, (processing.attempt entering fetcher output displayName).run before =
        (course.attempt entering, course.last)) ∧
      course.Agrees output (processing.quest? displayName fetching.1) fetching.2 := by
  obtain ⟨fetched, middle, ran⟩ := exists_run (fetcher.fetch (askedFor displayName)) before
  let location := fetcher.location (askedFor displayName)
  let fetching := Attempt.fetchingMessage (askedFor displayName) location
  simp only [attempt, StateT.run_bind, ran]
  cases fetched with
  | brokeDown =>
    refine ⟨⟨[(.fetching, [fetching])], .error (.breakdown .fetching), middle⟩, ?_, ?_⟩
    · intro entering
      rw [Course.attempt, List.flatMap_singleton]
      rfl
    · exact .of_early rfl ⟨[.extracting], rfl⟩ rfl rfl
  | failed error =>
    refine ⟨⟨[(.fetching, [fetching])], .error (.failed (.fetch (askedFor displayName) error)),
      middle⟩, ?_, ?_⟩
    · intro entering
      rw [Course.attempt, List.flatMap_singleton]
      rfl
    · exact .of_early rfl ⟨[.extracting], rfl⟩ rfl rfl
  | source source =>
    let begun := [fetching, Attempt.fetchedMessage location source]
    let events := (processing.process displayName source).events
    cases processed : (processing.process displayName source).value with
    | error error =>
      have atLast := processing.stage_of_error displayName source error processed
      refine ⟨⟨[(.fetching, begun), (.extracting, events)], .error (.failed error), middle⟩, ?_, ?_⟩
      · intro entering
        simp only [pure_bind, processed, Attempt.events_extracting, Progress.ending, Course.attempt,
          List.flatMap_cons, List.flatMap_nil, List.append_nil, List.append_assoc, begun, events]
        rfl
      · exact .of_early rfl ⟨[], rfl⟩ (congrArg some atLast.symm) rfl
    | ok quest =>
      obtain ⟨result, last, wrote⟩ :=
        exists_run (output.writeRecord quest.key quest.record) middle
      refine ⟨⟨[(.fetching, begun), (.extracting, events),
        (.writing, Attempt.toldOfWriting result)], Attempt.writingEnd quest result, last⟩, ?_, ?_⟩
      · intro entering
        simp only [pure_bind, processed, StateT.run_bind, wrote, Attempt.ofWritten_eq,
          Progress.enter, Progress.raise, Attempt.events_extracting, Progress.ending, Course.attempt,
          List.flatMap_cons, List.flatMap_nil, List.append_nil, List.append_assoc, begun, events]
        rfl
      · have extracted : processing.quest? displayName (.source source) = some quest := by
          rw [quest?, processed]
          rfl
        exact .of_writing extracted rfl wrote rfl

end Processing

/-- What an attempt reports of its stages agrees with what it comes to, and with what becomes of the
quest. -/
theorem Batch.attempt_agrees {σ : Type} (workplace : Workplace (StateM σ)) (name : String)
    (number : Nat) (before : σ) :
    let fetching := (workplace.fetcher.fetch (askedFor name)).run before
    (∃ course : Course σ,
      (∀ entering, (Attempt.run entering workplace.fetcher workplace.output name).run before =
        (course.attempt entering, course.last)) ∧
      course.Agrees workplace.output (Processing.plain.quest? name fetching.1) fetching.2 ∧
      ∃ outcome, (Batch.attempt workplace name number).run before =
          ((outcome, eventsOf (course.attempt enteringMessage)), course.last) ∧
        ((attemptOne workplace (name, number)).run before).1 = outcome ∧ course.Tells outcome) ∧
    ∀ describe, ∃ course : Course σ,
      (∀ entering, (Offsets.attempt describe entering workplace.fetcher workplace.output name).run
        before = (course.attempt entering, course.last)) ∧
      course.Agrees workplace.output ((Processing.byOffsets describe).quest? name fetching.1)
        fetching.2 ∧
      course.Tells (Outcome.ofResult number name course.result) := by
  intro fetching
  constructor
  · obtain ⟨course, went, agrees⟩ :=
      Processing.plain.exists_course workplace.fetcher workplace.output name before
    have run (entering : Stage → List Event) :
        (Attempt.run entering workplace.fetcher workplace.output name).run before =
          (course.attempt entering, course.last) := by
      rw [← Processing.attempt_plain, went]
    have attempted : (Batch.attempt workplace name number).run before =
        ((Outcome.ofResult number name course.result,
          eventsOf (course.attempt enteringMessage)), course.last) := by
      rw [Batch.attempt, StateT.run_bind, run]
      rfl
    refine ⟨course, run, agrees, _, attempted, ?_, agrees.tells_ofResult number name⟩
    simp only [attemptOne, StateT.run_bind, attempted]
    rfl
  · intro describe
    obtain ⟨course, went, agrees⟩ :=
      (Processing.byOffsets describe).exists_course workplace.fetcher workplace.output name before
    refine ⟨course, fun entering => ?_, agrees, agrees.tells_ofResult number name⟩
    rw [← Processing.attempt_byOffsets, went]

end QuestRecords
