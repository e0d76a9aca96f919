import QuestRecords.Proofs.Batch.RecordFiles
import QuestRecords.Proofs.Batch.Serialised

namespace QuestRecords

variable {σ : Type} (around : Surroundings σ)

/-- What follows the attempts of a batch: the report, when it is asked for, and the last event. -/
structure Closed (settings : BatchSettings) (results : BatchResults)
    (reported? : Option (Except PersistError String)) (before behind : World σ) : Prop where
  asked : reported?.isSome = settings.writesReport
  told : behind.told = before.told ++
    ((reported?.toList.map Batch.reportMessage) ++ [Batch.doneMessage results]).map (none, ·)
  fetched : behind.room.fetched = before.room.fetched
  written : ∀ path, reported? = some (.ok path) →
    path = Path.join settings.outputDirectory Batch.reportFile ∧ ∃ startedAt milliseconds,
      behind.room.files = put before.room.files
        (path, (String.ofList (results.report startedAt milliseconds).pretty).toUTF8)
  unwritten : (∀ path, reported? ≠ some (.ok path)) → behind.room.files = before.room.files

namespace Batch

def closing [Monad m] (workplace : Workplace m) (settings : BatchSettings) (started : Nat)
    (results : BatchResults) : m (Except BatchError BatchResults) := do
  if settings.writesReport then
    let report := results.report (Calendar.toMillisecond started) ((← workplace.now) - started)
    let written ← workplace.output.writeDocument reportFile report
    workplace.deliver none [reportMessage written]
  workplace.deliver none [doneMessage results]
  return .ok results

def attempts [Monad m] (workplace : Workplace m) (settings : BatchSettings) (names : List String) :
    m (List Outcome) :=
  if threadsFor settings.threads names.length = 1 then attemptAll workplace names
  else Pool.attemptAll workplace names (threadsFor settings.threads names.length)

theorem run_eq_closing [Monad m] (workplace : Workplace m) (settings : BatchSettings)
    (names : List String) (allowed : BatchSettings.allowsThreads settings.threads = true) :
    run workplace settings names = (do
      let started ← workplace.now
      workplace.deliver none [startMessage settings names.length]
      let outcomes ← attempts workplace settings names
      closing workplace settings started
        ⟨outcomes, threadsFor settings.threads names.length⟩) := by
  by_cases alone : threadsFor settings.threads names.length = 1
  · simp only [run, allowed, attempts, alone, if_true]
    rfl
  · simp only [run, allowed, attempts, alone, if_false]
    rfl

theorem attempts_serialised (settings : BatchSettings) (names : List String) (turns : List Nat)
    (world : World σ) :
    let last := (attempts (World.workplace around settings.outputDirectory turns) settings names).run
      world
    ∃ order, Serialised around settings.outputDirectory names world last.2 last.1 order := by
  rw [attempts]
  split
  · exact ⟨_, attemptAll_serialised around settings.outputDirectory names turns world⟩
  · have manned : 0 < threadsFor settings.threads names.length := Nat.le_max_left 1 _
    exact Pool.attemptAll_serialised around settings.outputDirectory names turns manned world

theorem closing_closes (turns : List Nat) (settings : BatchSettings) (started : Nat)
    (results : BatchResults) (world : World σ) :
    let last := (closing (World.workplace around settings.outputDirectory turns) settings started
      results).run world
    last.1 = .ok results ∧ ∃ reported?, Closed settings results reported? world last.2 := by
  intro last
  have run : last = (closing (World.workplace around settings.outputDirectory turns) settings
    started results).run world := rfl
  cases reports : settings.writesReport with
  | false =>
    rw [closing, reports] at run
    rw [run]
    refine ⟨rfl, none, ?_⟩
    exact ⟨reports.symm, rfl, rfl, by simp, fun _ => rfl⟩
  | true =>
    let later := around.now.run world.room.outside
    let report := results.report (Calendar.toMillisecond started) (later.1 - started)
    let written := ((Room.workplace around settings.outputDirectory).output.writeDocument
      reportFile report).run { world.room with outside := later.2 }
    have closed : last = (.ok results, ⟨written.2,
        world.told ++ [(none, reportMessage written.1)] ++ [(none, doneMessage results)]⟩) := by
      simp only [closing, reports, World.writeDocument_inside] at run
      exact run
    obtain ⟨fetched, ⟨wrote, changed⟩ | ⟨⟨error, failed⟩, unchanged⟩⟩ := Room.writeDocument_leaves
      around settings.outputDirectory reportFile report { world.room with outside := later.2 }
    · rw [closed]
      refine ⟨rfl, some written.1, reports.symm, List.append_assoc .., fetched, ?_, ?_⟩
      · intro path same
        have ok : written.1 = .ok path := Option.some.inj same
        cases ok.symm.trans wrote
        exact ⟨rfl, _, _, changed⟩
      · exact fun other => absurd (congrArg some wrote) (other _)
    · rw [closed]
      refine ⟨rfl, some written.1, reports.symm, List.append_assoc .., fetched, ?_, ?_⟩
      · intro path same
        have ok : written.1 = .ok path := Option.some.inj same
        cases ok.symm.trans failed
      · exact fun _ => unchanged

/-- The world of a batch when its attempts begin: the clock was read, and the start was told. -/
def begun (settings : BatchSettings) (names : List String) (world : World σ) : World σ where
  room := { world.room with outside := (around.now.run world.room.outside).2 }
  told := world.told ++ [(none, startMessage settings names.length)]

theorem run_eq_begun (settings : BatchSettings) (names : List String) (turns : List Nat)
    (world : World σ) (allowed : BatchSettings.allowsThreads settings.threads = true) :
    let workplace := World.workplace around settings.outputDirectory turns
    (run workplace settings names).run world =
      (attempts workplace settings names >>= fun outcomes =>
        closing workplace settings (around.now.run world.room.outside).1
          ⟨outcomes, threadsFor settings.threads names.length⟩).run
        (begun around settings names world) := by
  intro workplace
  rw [run_eq_closing workplace settings names allowed]
  rfl

/-- A batch with a number of threads that is allowed attempts its quests, and then closes. -/
theorem run_completes (settings : BatchSettings) (names : List String) (turns : List Nat)
    (world : World σ) (allowed : BatchSettings.allowsThreads settings.threads = true) :
    let last := (run (World.workplace around settings.outputDirectory turns) settings names).run
      world
    ∃ results begun ended order reported?, last.1 = .ok results ∧
      begun.told = world.told ++ [(none, startMessage settings names.length)] ∧
      begun.room.fetched = world.room.fetched ∧ begun.room.files = world.room.files ∧
      Serialised around settings.outputDirectory names begun ended results.outcomes order ∧
      Closed settings results reported? ended last.2 := by
  let workplace := World.workplace around settings.outputDirectory turns
  obtain ⟨order, serial⟩ := attempts_serialised around settings names turns
    (begun around settings names world)
  obtain ⟨outcomes, ended, attempted⟩ : ∃ outcomes ended,
    (attempts workplace settings names).run (begun around settings names world) =
      pure (outcomes, ended) := ⟨_, _, rfl⟩
  rw [attempted] at serial
  obtain ⟨result, reported?, closed⟩ := closing_closes around turns settings
    (around.now.run world.room.outside).1
    ⟨outcomes, threadsFor settings.threads names.length⟩ ended
  have run_eq := run_eq_begun around settings names turns world allowed
  dsimp only at run_eq
  rw [StateT.run_bind, attempted, pure_bind] at run_eq
  rw [run_eq]
  exact ⟨_, begun around settings names world, ended, order, reported?, result, rfl, rfl, rfl,
    serial, closed⟩

/-- A batch on one thread tells its attempts in the order of the list, and besides them nothing that
belongs to a quest. -/
theorem run_alone_told (settings : BatchSettings) (names : List String) (turns : List Nat)
    (world : World σ) (alone : settings.threads = 1) :
    let sequential := (Room.visitAll around settings.outputDirectory names.zipIdx).run
      (begun around settings names world).room
    ∃ later : List Event,
      ((run (World.workplace around settings.outputDirectory turns) settings names).run
        world).2.told = world.told ++ [(none, startMessage settings names.length)] ++
          toldInOrder sequential.1 ++ later.map (none, ·) := by
  intro sequential
  have allowed : BatchSettings.allowsThreads settings.threads = true := by
    rw [alone]
    decide
  have one : threadsFor settings.threads names.length = 1 := by
    rw [threadsFor, alone]
    omega
  have run_eq := run_eq_begun around settings names turns world allowed
  dsimp only at run_eq
  rw [attempts, if_pos one, StateT.run_bind, attemptAll, attempts_run, pure_bind] at run_eq
  rw [run_eq]
  obtain ⟨-, reported?, closed⟩ := closing_closes around turns settings _ _ _
  exact ⟨_, closed.told⟩

end Batch
end QuestRecords
