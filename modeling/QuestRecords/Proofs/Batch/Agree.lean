import QuestRecords.Proofs.Batch.Completed

namespace QuestRecords

variable {s t : Type} {R : s → t → Prop}

/-- From related states both actions come to the same result, and to related states again. -/
def Agree (R : s → t → Prop) (first : StateM s α) (other : StateM t α) : Prop :=
  ∀ before before', R before before' → (first.run before).1 = (other.run before').1 ∧
    R (first.run before).2 (other.run before').2

namespace Agree

theorem pure (value : α) : Agree R (pure value : StateM s α) (pure value : StateM t α) :=
  fun _ _ related => ⟨rfl, related⟩

theorem bind {first : StateM s α} {other : StateM t α} {next : α → StateM s β}
    {next' : α → StateM t β} (agree : Agree R first other)
    (goOn : ∀ value, Agree R (next value) (next' value)) :
    Agree R (first >>= next) (other >>= next') := by
  intro before before' related
  obtain ⟨same, later⟩ := agree before before' related
  have last := goOn (first.run before).1 _ _ later
  rw [show (other >>= next').run before' =
    (next' (other.run before').1).run (other.run before').2 from rfl, ← same]
  exact last

theorem mapM {action : α → StateM s β} {action' : α → StateM t β}
    (agree : ∀ value, Agree R (action value) (action' value)) (values : List α) :
    Agree R (values.mapM action) (values.mapM action') := by
  induction values with
  | nil => exact pure []
  | cons value values ih =>
    rw [List.mapM_cons, List.mapM_cons]
    exact (agree value).bind fun first => ih.bind fun others => pure (first :: others)

theorem foldlM {action : β → α → StateM s β} {action' : β → α → StateM t β}
    (agree : ∀ result value, Agree R (action result value) (action' result value))
    (values : List α) (start : β) :
    Agree R (values.foldlM action start) (values.foldlM action' start) := by
  induction values generalizing start with
  | nil => exact pure start
  | cons value values ih =>
    rw [List.foldlM_cons, List.foldlM_cons]
    exact (agree start value).bind ih

end Agree

/-- Workplaces whose fetchers, outputs, journals and clocks agree. -/
structure Workplace.Agree (R : s → t → Prop) (first : Workplace (StateM s))
    (other : Workplace (StateM t)) : Prop where
  location : first.fetcher.location = other.fetcher.location
  fetch : ∀ className,
    QuestRecords.Agree R (first.fetcher.fetch className) (other.fetcher.fetch className)
  path : first.output.path = other.output.path
  put : ∀ path text, QuestRecords.Agree R (first.output.put path text) (other.output.put path text)
  deliver : ∀ input? events,
    QuestRecords.Agree R (first.deliver input? events) (other.deliver input? events)
  now : QuestRecords.Agree R first.now other.now
  turns : first.turns = other.turns

namespace Workplace.Agree

variable {first : Workplace (StateM s)} {other : Workplace (StateM t)}

theorem writeDocument (agree : Workplace.Agree R first other) (fileName : String)
    (document : Json) : QuestRecords.Agree R (first.output.writeDocument fileName document)
      (other.output.writeDocument fileName document) := by
  rw [Output.writeDocument, Output.writeDocument, agree.path]
  refine (agree.put _ _).bind fun written => ?_
  cases written with
  | ok _ => exact .pure _
  | error error => exact .pure _

theorem attempt (agree : Workplace.Agree R first other) (name : String) (number : Nat) :
    QuestRecords.Agree R (Batch.attempt first name number) (Batch.attempt other name number) := by
  refine QuestRecords.Agree.bind ?_ fun attempt => .pure _
  rw [Attempt.run, Attempt.run, agree.location]
  refine (agree.fetch _).bind fun fetched => ?_
  cases fetched with
  | brokeDown => exact .pure _
  | failed error => exact .pure _
  | source source => exact (agree.writeDocument _ _).bind fun written => .pure _

theorem attemptAll (agree : Workplace.Agree R first other) (names : List String) :
    QuestRecords.Agree R (Batch.attemptAll first names) (Batch.attemptAll other names) :=
  .mapM (fun (name, number) => (agree.attempt name number).bind fun (outcome, events) =>
    (agree.deliver _ events).bind fun _ => .pure outcome) _

theorem step (agree : Workplace.Agree R first other) (names : List String) (pool : Pool)
    (worker : Nat) :
    QuestRecords.Agree R (pool.step first names worker) (pool.step other names worker) := by
  rw [Pool.step, Pool.step]
  cases pool.workerAt worker with
  | free => exact .pure _
  | assigned name number => exact (agree.attempt name number).bind fun _ => .pure _
  | telling outcome left =>
    cases left with
    | nil => exact .pure _
    | cons event left => exact (agree.deliver _ [event]).bind fun _ => .pure _
  | stopped => exact .pure _

theorem steps (agree : Workplace.Agree R first other) (names : List String) (pool : Pool)
    (turns : List Nat) :
    QuestRecords.Agree R (pool.steps first names turns) (pool.steps other names turns) :=
  .foldlM (fun pool worker => agree.step names pool worker) turns pool

theorem poolAttemptAll (agree : Workplace.Agree R first other) (names : List String)
    (workers : Nat) :
    QuestRecords.Agree R (Pool.attemptAll first names workers)
      (Pool.attemptAll other names workers) := by
  rw [Pool.attemptAll, Pool.attemptAll, agree.turns]
  refine (agree.steps names _ _).bind fun pool => ?_
  refine QuestRecords.Agree.bind ?_ fun last => .pure _
  exact .foldlM (fun pool worker => agree.steps names pool _) _ pool

theorem attempts (agree : Workplace.Agree R first other) (settings : BatchSettings)
    (names : List String) :
    QuestRecords.Agree R (Batch.attempts first settings names)
      (Batch.attempts other settings names) := by
  rw [Batch.attempts, Batch.attempts]
  split
  · exact agree.attemptAll names
  · exact agree.poolAttemptAll names _

theorem closing (agree : Workplace.Agree R first other) (settings : BatchSettings) (started : Nat)
    (results : BatchResults) :
    QuestRecords.Agree R (Batch.closing first settings started results)
      (Batch.closing other settings started results) := by
  let result : Except BatchError BatchResults := .ok results
  have done : QuestRecords.Agree R
      (do first.deliver none [Batch.doneMessage results]; return result)
      (do other.deliver none [Batch.doneMessage results]; return result) :=
    (agree.deliver _ _).bind fun _ => .pure result
  rw [Batch.closing, Batch.closing]
  split
  · exact agree.now.bind fun later => (agree.writeDocument _ _).bind fun written =>
      (agree.deliver _ _).bind fun _ => done
  · exact done

/-- A whole batch comes to the same in both workplaces. -/
theorem run (agree : Workplace.Agree R first other) (settings : BatchSettings)
    (names : List String) :
    QuestRecords.Agree R (Batch.run first settings names) (Batch.run other settings names) := by
  cases allowed : BatchSettings.allowsThreads settings.threads with
  | false =>
    rw [Batch.run, Batch.run, allowed]
    exact .pure _
  | true =>
    rw [Batch.run_eq_closing first settings names allowed,
      Batch.run_eq_closing other settings names allowed]
    exact agree.now.bind fun started => (agree.deliver _ _).bind fun _ =>
      (agree.attempts settings names).bind fun outcomes => agree.closing settings started _

end Workplace.Agree
end QuestRecords
