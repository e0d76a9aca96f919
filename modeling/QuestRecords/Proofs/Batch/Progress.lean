import QuestRecords.Proofs.Batch.Turn

/-! Progress of a shared batch. In every round each worker that goes on takes one more quest, so
after one round more than there are quests all workers have stopped. -/
namespace QuestRecords.Pool

variable {σ : Type} (around : Surroundings σ) (directory : String) (names : List String)

/-- A worker has turns until it is at something else. -/
def stretched (state : Pool × World σ) (worker : Nat) : Pool × World σ :=
  play around directory names (List.replicate (state.1.workerAt worker).span worker) state

/-- The stretches of workers in the rounds that let them finish. -/
def rounds (workers quests : Nat) : List Nat :=
  (List.range (quests + 1)).flatMap fun _ => round workers

theorem stretch_eq_stretched (turns : List Nat) (pool : Pool) (world : World σ) (worker : Nat) :
    (stretch (World.workplace around directory turns) names pool worker).run world =
      stretched around directory names (pool, world) worker :=
  steps_eq_play around directory names turns _ pool world

theorem finish_eq_foldl (turns : List Nat) (pool : Pool) (world : World σ) :
    (finish (World.workplace around directory turns) names pool).run world =
      (rounds pool.workers.length names.length).foldl (stretched around directory names)
        (pool, world) := by
  rw [finish, rounds]
  generalize (List.range (names.length + 1)).flatMap
    (fun _ => round pool.workers.length) = workers
  induction workers generalizing pool world with
  | nil => rfl
  | cons worker workers ih =>
    rw [List.foldl_cons, ← stretch_eq_stretched around directory names turns pool world worker]
    exact ih _ _

/-- What the turns of one worker leave to the others. -/
structure Onward (worker : Nat) (before behind : Pool) : Prop where
  length : behind.workers.length = before.workers.length
  others : ∀ other, other ≠ worker → behind.workerAt other = before.workerAt other
  forward : before.next ≤ behind.next

theorem Onward.refl (worker : Nat) (pool : Pool) : Onward worker pool pool :=
  ⟨rfl, fun _ _ => rfl, Nat.le_refl _⟩

theorem Onward.trans {worker : Nat} {first second third : Pool}
    (early : Onward worker first second) (late : Onward worker second third) :
    Onward worker first third where
  length := late.length.trans early.length
  others other different := (late.others other different).trans (early.others other different)
  forward := Nat.le_trans early.forward late.forward

theorem workerAt_setWorker_self {pool : Pool} {worker : Nat}
    (present : worker < pool.workers.length) (state : Worker) :
    (pool.setWorker worker state).workerAt worker = state := by
  simp [workerAt, setWorker, List.getD_eq_getElem?_getD, present]

theorem onward_setWorker (pool : Pool) (worker : Nat) (state : Worker) :
    Onward worker pool (pool.setWorker worker state) where
  length := by simp [setWorker]
  others other different := by
    simp [workerAt, setWorker, List.getD_eq_getElem?_getD, Ne.symm different]
  forward := Nat.le_refl _

variable {state next : Pool × World σ} {worker : Nat}

theorem stretched_free (made : stretched around directory names state worker = next)
    (present : worker < state.1.workers.length) (free : state.1.workerAt worker = .free) :
    Onward worker state.1 next.1 ∧ (next.1.workerAt worker = .stopped ∨
      ∃ name number, next.1.workerAt worker = .assigned name number ∧
        state.1.next < names.length ∧ next.1.next = state.1.next + 1) := by
  have taken : next.1 = state.1.take names worker := by
    rw [← made]
    simp [stretched, free, Worker.span, play, turn]
  have moved : Onward worker state.1 { state.1 with next := state.1.next + 1 } :=
    ⟨rfl, fun _ _ => rfl, Nat.le_succ _⟩
  rw [taken, take]
  cases found : names[state.1.next]? with
  | some name =>
    refine ⟨moved.trans (onward_setWorker _ worker _), .inr ⟨name, state.1.next, ?_, ?_, rfl⟩⟩
    · exact workerAt_setWorker_self present _
    · exact (List.getElem?_eq_some_iff.mp found).1
  | none =>
    exact ⟨moved.trans (onward_setWorker _ worker _), .inl (workerAt_setWorker_self present _)⟩

theorem stretched_assigned {name : String} {number : Nat}
    (made : stretched around directory names state worker = next)
    (present : worker < state.1.workers.length)
    (assigned : state.1.workerAt worker = .assigned name number) :
    Onward worker state.1 next.1 ∧
      ∃ outcome left, next.1.workerAt worker = .telling outcome left := by
  have visited : ∃ outcome left, next.1 = state.1.setWorker worker (.telling outcome left) := by
    rw [← made]
    simp only [stretched, assigned, Worker.span, play, turn, List.replicate_succ,
      List.replicate_zero, List.foldl_cons, List.foldl_nil]
    exact ⟨_, _, rfl⟩
  obtain ⟨outcome, left, same⟩ := visited
  rw [same]
  exact ⟨onward_setWorker _ worker _, outcome, left, workerAt_setWorker_self present _⟩

theorem stretched_telling {outcome : Outcome} {left : List Event}
    (made : stretched around directory names state worker = next)
    (present : worker < state.1.workers.length)
    (telling : state.1.workerAt worker = .telling outcome left) :
    Onward worker state.1 next.1 ∧ next.1.workerAt worker = .free := by
  induction left generalizing state with
  | nil =>
    have stored : next.1 = state.1.store worker outcome := by
      rw [← made]
      simp [stretched, telling, Worker.span, play, turn]
    have placed : Onward worker state.1
        { state.1 with outcomes := state.1.outcomes.set outcome.number (some outcome) } :=
      ⟨rfl, fun _ _ => rfl, Nat.le_refl _⟩
    rw [stored]
    exact ⟨placed.trans (onward_setWorker _ worker _), workerAt_setWorker_self present _⟩
  | cons event left ih =>
    obtain ⟨first, turned⟩ : ∃ first, turn around directory names state worker = first := ⟨_, rfl⟩
    have told : first.1 = state.1.setWorker worker (.telling outcome left) := by
      rw [← turned]
      simp [turn, telling]
    have moved : Onward worker state.1 first.1 := told ▸ onward_setWorker state.1 worker _
    have still : first.1.workerAt worker = .telling outcome left := by
      rw [told]
      exact workerAt_setWorker_self present _
    have others : stretched around directory names first worker = next := by
      rw [← made]
      simp only [stretched, telling, still, Worker.span, List.length_cons, List.replicate_succ,
        play, List.foldl_cons, turned]
    obtain ⟨rest, free⟩ := ih others (moved.length ▸ present) still
    exact ⟨moved.trans rest, free⟩

theorem stretched_stopped (made : stretched around directory names state worker = next)
    (stopped : state.1.workerAt worker = .stopped) : next = state := by
  rw [← made]
  simp [stretched, stopped, Worker.span, play]

/-- Three stretches of a worker that goes on hold one quest taken. -/
theorem three_stretches (present : worker < state.1.workers.length) :
    let last := ((List.replicate 3 worker).foldl (stretched around directory names) state).1
    Onward worker state.1 last ∧ (last.workerAt worker = .stopped ∨
      state.1.workerAt worker ≠ .stopped ∧ state.1.next < names.length ∧
        state.1.next < last.next) := by
  simp only [List.replicate_succ, List.replicate_zero, List.foldl_cons, List.foldl_nil]
  generalize one : stretched around directory names state worker = first
  generalize two : stretched around directory names first worker = second
  generalize three : stretched around directory names second worker = third
  cases at_work : state.1.workerAt worker with
  | free =>
    obtain ⟨moved, stopped | ⟨name, number, assigned, some_left, taken⟩⟩ :=
      stretched_free around directory names one present at_work
    · have same := stretched_stopped around directory names two stopped
      subst same
      have still := stretched_stopped around directory names three stopped
      subst still
      exact ⟨moved, .inl stopped⟩
    · obtain ⟨movedSecond, outcome, left, telling⟩ := stretched_assigned
        around directory names two (moved.length ▸ present) assigned
      obtain ⟨movedThird, _⟩ := stretched_telling around directory names three
        (movedSecond.length ▸ moved.length ▸ present) telling
      have onwards := (movedSecond.trans movedThird).forward
      exact ⟨moved.trans (movedSecond.trans movedThird), .inr ⟨by simp, some_left, by omega⟩⟩
  | assigned name number =>
    obtain ⟨moved, outcome, left, telling⟩ := stretched_assigned
      around directory names one present at_work
    obtain ⟨movedSecond, free⟩ := stretched_telling around directory names two
      (moved.length ▸ present) telling
    obtain ⟨movedThird, stopped | ⟨_, _, _, some_left, taken⟩⟩ := stretched_free
      around directory names three (movedSecond.length ▸ moved.length ▸ present) free
    · exact ⟨moved.trans (movedSecond.trans movedThird), .inl stopped⟩
    · have onwards := (moved.trans movedSecond).forward
      exact ⟨moved.trans (movedSecond.trans movedThird), .inr ⟨by simp, by omega, by omega⟩⟩
  | telling outcome left =>
    obtain ⟨moved, free⟩ := stretched_telling around directory names one present at_work
    obtain ⟨movedSecond, stopped | ⟨_, _, assigned, some_left, taken⟩⟩ := stretched_free
      around directory names two (moved.length ▸ present) free
    · have still := stretched_stopped around directory names three stopped
      subst still
      exact ⟨moved.trans movedSecond, .inl stopped⟩
    · obtain ⟨movedThird, _⟩ := stretched_assigned around directory names three
        (movedSecond.length ▸ moved.length ▸ present) assigned
      have early := moved.forward
      have late := movedThird.forward
      exact ⟨moved.trans (movedSecond.trans movedThird), .inr ⟨by simp, by omega, by omega⟩⟩
  | stopped =>
    have same := stretched_stopped around directory names one at_work
    subst same
    have still := stretched_stopped around directory names two at_work
    subst still
    have last := stretched_stopped around directory names three at_work
    subst last
    exact ⟨.refl worker _, .inl at_work⟩

/-- A worker that has not stopped after some rounds took a quest in each of them. -/
def Keeping (quests passed : Nat) (worker : Nat) (pool : Pool) : Prop :=
  pool.workerAt worker = .stopped ∨ passed ≤ pool.next ∧ passed ≤ quests

theorem Keeping.onward {quests passed other : Nat} {before behind : Pool}
    (kept : Keeping quests passed other before) (moved : Onward worker before behind)
    (different : other ≠ worker) : Keeping quests passed other behind := by
  rcases kept with stopped | ⟨enough, few⟩
  · exact .inl ((moved.others other different).trans stopped)
  · exact .inr ⟨Nat.le_trans enough moved.forward, few⟩

theorem keeping_three {passed : Nat} (present : worker < state.1.workers.length)
    (kept : Keeping names.length passed worker state.1) :
    Keeping names.length (passed + 1) worker
      ((List.replicate 3 worker).foldl (stretched around directory names) state).1 := by
  obtain ⟨_, stopped | ⟨working, some_left, taken⟩⟩ :=
    three_stretches around directory names present
  · exact .inl stopped
  · rcases kept with stopped | ⟨enough, _⟩
    · exact absurd stopped working
    · exact .inr ⟨by omega, by omega⟩

/-- The workers of a round go on one after the other. Those that had their turn are one round
ahead of those that wait. -/
theorem keeping_workers {passed : Nat} (waiting : List Nat) (distinct : waiting.Nodup)
    (present : ∀ worker ∈ waiting, worker < state.1.workers.length)
    (behind : ∀ worker ∈ waiting, Keeping names.length passed worker state.1)
    (ahead : ∀ worker, worker < state.1.workers.length → worker ∉ waiting →
      Keeping names.length (passed + 1) worker state.1) :
    let last := ((waiting.flatMap fun worker => List.replicate 3 worker).foldl
      (stretched around directory names) state).1
    last.workers.length = state.1.workers.length ∧
      ∀ worker, worker < state.1.workers.length →
        Keeping names.length (passed + 1) worker last := by
  induction waiting generalizing state with
  | nil => exact ⟨rfl, fun worker here => ahead worker here (by simp)⟩
  | cons first waiting ih =>
    obtain ⟨fresh, distinct⟩ := List.nodup_cons.mp distinct
    have here := present first List.mem_cons_self
    have stepped := keeping_three around directory names here (behind first List.mem_cons_self)
    obtain ⟨moved, _⟩ := three_stretches around directory names here
    rw [List.flatMap_cons, List.foldl_append]
    generalize (List.replicate 3 first).foldl (stretched around directory names) state = middle
      at stepped moved ⊢
    rw [← moved.length]
    apply ih distinct
    · intro worker member
      exact moved.length ▸ present worker (List.mem_cons_of_mem _ member)
    · intro worker member
      exact (behind worker (List.mem_cons_of_mem _ member)).onward moved
        (fun same => fresh (same ▸ member))
    · intro worker inside outside
      by_cases same : worker = first
      · subst same
        exact stepped
      · exact (ahead worker (moved.length ▸ inside) (by simp [same, outside])).onward moved same

theorem keeping_rounds (passes : List Nat) {passed workers : Nat}
    (length : state.1.workers.length = workers)
    (kept : ∀ worker, worker < workers → Keeping names.length passed worker state.1) :
    let last := ((passes.flatMap fun _ => round workers).foldl
      (stretched around directory names) state).1
    last.workers.length = workers ∧
      ∀ worker, worker < workers → Keeping names.length (passed + passes.length) worker last := by
  induction passes generalizing state passed with
  | nil => exact ⟨length, kept⟩
  | cons pass passes ih =>
    subst length
    obtain ⟨same, stepped⟩ := keeping_workers around directory names
      (List.range state.1.workers.length) List.nodup_range (fun worker => List.mem_range.mp)
      (fun worker member => kept worker (List.mem_range.mp member))
      (fun worker inside outside => absurd (List.mem_range.mpr inside) outside)
    rw [← round] at same stepped
    rw [List.flatMap_cons, List.foldl_append, List.length_cons, Nat.add_comm passes.length,
      ← Nat.add_assoc]
    generalize (round state.1.workers.length).foldl (stretched around directory names) state =
      middle at same stepped ⊢
    exact ih same stepped

theorem all_stopped (state : Pool × World σ) (worker : Nat) :
    (((rounds state.1.workers.length names.length).foldl (stretched around directory names)
      state).1).workerAt worker = .stopped := by
  have begun : ∀ worker, worker < state.1.workers.length →
      Keeping names.length 0 worker state.1 := fun _ _ => .inr ⟨Nat.zero_le _, Nat.zero_le _⟩
  obtain ⟨length, kept⟩ := keeping_rounds around directory names
    (List.range (names.length + 1)) rfl begun
  by_cases present : worker < state.1.workers.length
  · rcases kept worker present with stopped | ⟨_, few⟩
    · exact stopped
    · simp only [List.length_range] at few
      omega
  · rw [workerAt, rounds, List.getD_eq_getElem?_getD, List.getElem?_eq_none (by omega)]
    rfl

end QuestRecords.Pool
