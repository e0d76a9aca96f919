import QuestRecords.Proofs.Batch.Office

namespace QuestRecords

/-- A journal in which no quest is set, and the quest that is set on each thread. -/
structure SharedJournal where
  journal : Journal
  inputs : Nat → Option InputContext := fun _ => none

def SharedJournal.seenBy (shared : SharedJournal) (thread : Nat) : Journal :=
  { shared.journal with input := shared.inputs thread }

/-- A thread uses the journal. The quest set behind that is set on this thread alone. -/
def SharedJournal.use (shared : SharedJournal) (thread : Nat) (action : Journal → Journal) :
    SharedJournal :=
  let after := action (shared.seenBy thread)
  { journal := { after with input := shared.journal.input }
    inputs := Function.update shared.inputs thread after.input }

namespace Worker

/-- What the next turn of a worker does to the journal that it sees. -/
def enters : Worker → Journal → Journal
  | assigned name number, journal => journal.enter ⟨name, number⟩
  | telling _ (event :: _), journal => (journal.record event).1
  | telling _ [], journal => journal.leave
  | free, journal | stopped, journal => journal

/-- The quest whose events a worker tells. -/
def tells? : Worker → Option InputContext
  | telling outcome _ => some outcome.input
  | _ => none

end Worker

namespace Pool

variable {σ : Type} (around : Surroundings σ) (directory : String) (names : List String)

/-- One turn of a worker on its own thread. -/
def threadTurn (state : (Pool × World σ) × SharedJournal) (worker : Nat) :
    (Pool × World σ) × SharedJournal :=
  (turn around directory names state.1 worker,
    state.2.use worker (state.1.1.workerAt worker).enters)

def threadPlay (turns : List Nat) (state : (Pool × World σ) × SharedJournal) :
    (Pool × World σ) × SharedJournal :=
  turns.foldl (threadTurn around directory names) state

theorem threadPlay_pool (turns : List Nat) (state : (Pool × World σ) × SharedJournal) :
    (threadPlay around directory names turns state).1 =
      play around directory names turns state.1 := by
  induction turns generalizing state with
  | nil => rfl
  | cons worker turns ih => exact ih _

end Pool

/-- On every thread the quest is set whose events it tells, and on no other; and the journal has
collected what was told. -/
structure Attributed (namesInput : Bool) (pool : Pool)
    (told : List (Option InputContext × Event)) (shared : SharedJournal) : Prop where
  works : ∀ worker, shared.inputs worker = (pool.workerAt worker).tells?
  told : shared.journal.Told namesInput told

namespace Pool

theorem lt_length_of_working {pool : Pool} {worker : Nat} {state : Worker}
    (at_work : pool.workerAt worker = state) (working : state ≠ .stopped) :
    worker < pool.workers.length :=
  (List.getElem?_eq_some_iff.mp (found_of_workerAt at_work working)).1

theorem workerAt_setWorker {pool : Pool} {worker : Nat} (present : worker < pool.workers.length)
    (state : Worker) (other : Nat) :
    (pool.setWorker worker state).workerAt other =
      if other = worker then state else pool.workerAt other := by
  by_cases same : other = worker
  · rw [if_pos same, same, workerAt_setWorker_self present]
  · rw [if_neg same, (onward_setWorker pool worker state).others other same]

end Pool

namespace Attributed

variable {σ : Type} {around : Surroundings σ} {directory : String} {names : List String}
variable {namesInput : Bool} {pool : Pool} {told : List (Option InputContext × Event)}
variable {shared : SharedJournal}

theorem start {journal : Journal} (idle : journal.input = none)
    (cleared : journal.collector.events = ∅) (workers quests : Nat) :
    Attributed journal.namesInput (Pool.start workers quests) [] { journal } := by
  refine ⟨fun worker => ?_, .start idle cleared⟩
  rw [Pool.workerAt, List.getD_eq_getElem?_getD, Pool.start, List.getElem?_replicate]
  split <;> rfl

theorem setWorker (state : Attributed namesInput pool told shared) {worker : Nat}
    (present : worker < pool.workers.length) (next : Worker) {later : Pool}
    (moved : later.workers = pool.workers.set worker next)
    {told' : List (Option InputContext × Event)} {after : Journal}
    (kept : Journal.Told namesInput told' { after with input := shared.journal.input })
    (set : after.input = next.tells?) :
    Attributed namesInput later told'
      ⟨{ after with input := shared.journal.input },
        Function.update shared.inputs worker after.input⟩ := by
  refine ⟨fun other => ?_, kept⟩
  have reached : later.workerAt other = (pool.setWorker worker next).workerAt other := by
    rw [Pool.workerAt, Pool.workerAt, moved, Pool.setWorker]
  rw [reached, Pool.workerAt_setWorker present]
  dsimp only
  by_cases same : other = worker
  · rw [if_pos same, same, Function.update_self, set]
  · rw [if_neg same, Function.update_of_ne same, state.works]

/-- Every turn leaves on every thread the quest whose events it tells. -/
theorem turn {world : World σ} (state : Attributed namesInput pool world.told shared)
    (worker : Nat) :
    let next := Pool.threadTurn around directory names ((pool, world), shared) worker
    Attributed namesInput next.1.1 next.1.2.told next.2 := by
  have works := state.works worker
  dsimp only [Pool.threadTurn, Pool.turn, SharedJournal.use]
  cases at_work : pool.workerAt worker with
  | free =>
    rw [at_work] at works
    have present := Pool.lt_length_of_working at_work (by simp)
    rw [Pool.take]
    dsimp only
    split
    · exact state.setWorker present (.assigned _ _) rfl state.told works
    · exact state.setWorker present .stopped rfl state.told works
  | assigned name number =>
    have present := Pool.lt_length_of_working at_work (by simp)
    have entry := Room.visit_entry around directory (name, number) world.room
    have input : (⟨name, number⟩ : InputContext) = _ :=
      congrArg (fun entry : String × Nat => (⟨entry.1, entry.2⟩ : InputContext)) entry.symm
    refine state.setWorker present (.telling _ _) rfl ?_ (congrArg some input)
    rw [← List.append_nil world.told]
    exact state.told.collect [] rfl
  | telling outcome left =>
    rw [at_work] at works
    have present := Pool.lt_length_of_working at_work (by simp)
    cases left with
    | nil => exact state.setWorker present .free rfl state.told rfl
    | cons event left =>
      dsimp only [Worker.enters]
      rw [Journal.record_eq]
      refine state.setWorker present (.telling outcome left) rfl ?_ works
      refine state.told.collect _ ?_
      dsimp only [SharedJournal.seenBy]
      rw [works, state.told.names]
      rfl
  | stopped =>
    rw [at_work] at works
    refine ⟨fun other => ?_, state.told⟩
    rw [← state.works other]
    exact congrFun (Function.update_eq_self worker shared.inputs) other

/-- Whatever turns were taken, on every thread the quest is set whose events it tells. -/
theorem play {world : World σ} (state : Attributed namesInput pool world.told shared)
    (turns : List Nat) :
    let last := Pool.threadPlay around directory names turns ((pool, world), shared)
    Attributed namesInput last.1.1 last.1.2.told last.2 := by
  induction turns generalizing pool world shared with
  | nil => exact state
  | cons worker turns ih => exact ih (state.turn worker)

/-- When all workers have stopped, no quest is set on any thread. -/
theorem cleared (state : Attributed namesInput pool told shared)
    (stopped : ∀ worker ∈ pool.workers, worker = .stopped) (thread : Nat) :
    shared.inputs thread = none := by
  rw [state.works, Pool.workerAt, List.getD_eq_getElem?_getD]
  cases found : pool.workers[thread]? with
  | none => rfl
  | some worker =>
    rw [stopped worker (List.mem_of_getElem? found)]
    rfl

end Attributed
end QuestRecords
