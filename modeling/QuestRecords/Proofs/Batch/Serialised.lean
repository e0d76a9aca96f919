import QuestRecords.Proofs.Batch.Progress
import QuestRecords.Proofs.Batch.SerialInvariant
import QuestRecords.Proofs.Batch.Visit

namespace QuestRecords

variable {σ : Type} (around : Surroundings σ) (directory : String) (names : List String)

def Outcome.entry (outcome : Outcome) : String × Nat := (outcome.name, outcome.number)

/-- What a batch did between two worlds: attempts in an order, each of one quest of the list, whose
events were all told for that quest, and whose outcomes are listed by number. -/
structure Serialised (before behind : World σ) (outcomes : List Outcome)
    (order : List (String × Nat)) : Prop where
  whole : order.Perm names.zipIdx
  ran : ((Room.visitAll around directory order).run before.room).2 = behind.room
  placed : outcomes.Perm (((Room.visitAll around directory order).run before.room).1.map Prod.fst)
  listed : outcomes.map Outcome.entry = names.zipIdx
  told : ∃ fresh, behind.told = before.told ++ fresh ∧
    (∀ visited ∈ ((Room.visitAll around directory order).run before.room).1,
      eventsFor visited.1.input fresh = visited.2) ∧
    ∀ entry ∈ fresh, ∃ outcome ∈ outcomes, entry.1 = some outcome.input

theorem exists_map_some {values : List (Option α)}
    (full : (values.filterMap id).length = values.length) :
    values = (values.filterMap id).map some := by
  have present := List.filterMap_length_eq_length.mp full
  clear full
  induction values with
  | nil => rfl
  | cons value values ih =>
    obtain ⟨held, same⟩ := Option.isSome_iff_exists.mp (present value List.mem_cons_self)
    have first : value = some held := same
    have others := ih fun other member => present other (List.mem_cons_of_mem value member)
    rw [first]
    exact congrArg (some held :: ·) others

theorem Pool.results_of_filled {pool : Pool} {outcomes : List Outcome}
    (filled : pool.outcomes = outcomes.map some) (length : outcomes.length = names.length) :
    pool.results names = outcomes := by
  rw [Pool.results, filled]
  apply List.ext_getElem
  · simp [length]
  · intro place _ _
    simp

namespace Serial

variable {around directory names} {before world : World σ} {order : List (String × Nat)}
variable {accounts : List Account} {fresh : List (Option InputContext × Event)} {pool : Pool}

/-- When all workers have stopped, all quests were attempted, all is told, and every place is
filled. -/
theorem filled (serial : Serial around directory names before order accounts fresh pool world)
    (stopped : ∀ worker ∈ pool.workers, worker = .stopped) (manned : pool.workers ≠ []) :
    order.Perm names.zipIdx ∧ (∀ account ∈ accounts, account.left = []) ∧
      ∃ outcomes : List Outcome, pool.outcomes = outcomes.map some ∧
        outcomes.Perm (accounts.map Account.outcome) := by
  have assignments : pool.workers.filterMap Worker.assignment? = [] :=
    List.filterMap_eq_nil_iff.mpr fun worker member => by rw [stopped worker member]; rfl
  have messages : pool.workers.filterMap Worker.message? = [] :=
    List.filterMap_eq_nil_iff.mpr fun worker member => by rw [stopped worker member]; rfl
  have ended : names.length ≤ pool.next := by
    obtain ⟨worker, workers, same⟩ := List.exists_cons_of_ne_nil manned
    have first : worker ∈ pool.workers := same ▸ List.mem_cons_self
    exact serial.drained (stopped worker first ▸ first)
  have whole := serial.taken
  rw [assignments, List.append_nil, List.take_of_length_le (by simpa using ended)] at whole
  have placed := serial.placed
  rw [messages, List.append_nil] at placed
  have stored : (pool.outcomes.filterMap id).Perm (accounts.map Account.outcome) := by
    simpa [Function.comp_def, Account.pending] using placed.map Prod.fst
  refine ⟨whole, ?_, pool.outcomes.filterMap id, exists_map_some ?_, stored⟩
  · intro account made
    have pending : account.pending ∈ accounts.map Account.pending := List.mem_map.mpr ⟨_, made, rfl⟩
    obtain ⟨outcome, -, same⟩ := List.mem_map.mp (placed.symm.subset pending)
    exact congrArg Prod.snd same.symm
  · have attempts : accounts.length = order.length := by
      rw [← serial.entries, List.length_map]
    rw [stored.length_eq, List.length_map, attempts, whole.length_eq, List.length_zipIdx,
      serial.places]

/-- A batch whose workers have all stopped is a serial one. -/
theorem serialised (serial : Serial around directory names before order accounts fresh pool world)
    (stopped : ∀ worker ∈ pool.workers, worker = .stopped) (manned : pool.workers ≠ []) :
    Serialised around directory names before world (pool.results names) order := by
  obtain ⟨whole, silent, outcomes, full, stored⟩ := serial.filled stopped manned
  have length : outcomes.length = names.length := by
    rw [← serial.places, full, List.length_map]
  rw [Pool.results_of_filled names full length]
  have results : accounts.map Account.visited =
      ((Room.visitAll around directory order).run before.room).1 := by rw [serial.ran]
  refine ⟨whole, by rw [serial.ran], ?_, ?_, fresh, serial.told, ?_, ?_⟩
  · rw [← results, List.map_map]
    exact stored
  · apply List.ext_getElem
    · simp [length]
    · intro place inside _
      rw [List.getElem_map, List.getElem_zipIdx]
      rw [List.length_map] at inside
      have number : outcomes[place].number = place :=
        serial.numbered place _ (by simp [full, inside])
      obtain ⟨account, made, same⟩ := List.mem_map.mp (stored.subset (List.getElem_mem inside))
      have listed := serial.mem_zipIdx made
      rw [same, number, List.mk_mem_zipIdx_iff_getElem?] at listed
      have name : names[place] = outcomes[place].name := (List.getElem?_eq_some_iff.mp listed).2
      rw [name, Nat.zero_add, Outcome.entry, number]
  · rw [← results]
    intro visited member
    obtain ⟨account, made, rfl⟩ := List.mem_map.mp member
    rw [Account.visited, silent account made, List.append_nil]
    exact serial.toldFor account made
  · intro entry member
    obtain ⟨account, made, same⟩ := serial.attributed entry member
    exact ⟨account.outcome, stored.symm.subset (List.mem_map.mpr ⟨_, made, rfl⟩), same⟩

end Serial

theorem Pool.turn_length (state : Pool × World σ) (worker : Nat) :
    (turn around directory names state worker).1.workers.length = state.1.workers.length := by
  rw [turn]
  split
  · rw [take]
    split <;> simp [setWorker]
  · exact List.length_set
  · simp [setWorker]
  · simp [store, setWorker]
  · rfl

theorem Pool.play_length (turns : List Nat) (state : Pool × World σ) :
    (play around directory names turns state).1.workers.length = state.1.workers.length := by
  induction turns generalizing state with
  | nil => rfl
  | cons worker turns ih => exact (ih _).trans (turn_length around directory names state worker)

/-- Stretches of workers are turns as well. -/
theorem Pool.exists_play (workers : List Nat) (state : Pool × World σ) :
    ∃ turns, workers.foldl (stretched around directory names) state =
      play around directory names turns state := by
  induction workers generalizing state with
  | nil => exact ⟨[], rfl⟩
  | cons worker workers ih =>
    obtain ⟨turns, same⟩ := ih (stretched around directory names state worker)
    refine ⟨List.replicate (state.1.workerAt worker).span worker ++ turns, ?_⟩
    rw [List.foldl_cons, same, play, play, List.foldl_append]
    rfl

/-- A batch that is shared comes to an end in which all its workers have stopped. -/
theorem Pool.exists_end (turns : List Nat) (workers : Nat) (world : World σ) :
    ∃ all : List Nat,
      let ended := play around directory names all (start workers names.length, world)
      (∀ worker ∈ ended.1.workers, worker = .stopped) ∧
        (attemptAll (World.workplace around directory turns) names workers).run world =
          (ended.1.results names, ended.2) := by
  let settled := play around directory names turns (start workers names.length, world)
  obtain ⟨later, same⟩ := exists_play around directory names
    (rounds settled.1.workers.length names.length) settled
  refine ⟨turns ++ later, ?_⟩
  have ended : play around directory names (turns ++ later) (start workers names.length, world) =
      (rounds settled.1.workers.length names.length).foldl (stretched around directory names)
        settled := by
    rw [same, play, play, List.foldl_append]
    rfl
  rw [ended]
  constructor
  · intro worker member
    obtain ⟨place, inside, rfl⟩ := List.mem_iff_getElem.mp member
    have stopped := all_stopped around directory names settled place
    rwa [workerAt, List.getD_eq_getElem?_getD, List.getElem?_eq_getElem inside] at stopped
  · have begun : (steps (World.workplace around directory turns) names
        (start workers names.length) (World.workplace around directory turns).turns).run world =
        settled := steps_eq_play around directory names turns turns _ world
    rw [attemptAll, StateT.run_bind, begun]
    exact congrArg (fun state => (state.1.results names, state.2))
      (finish_eq_foldl around directory names turns settled.1 settled.2)

/-- Whatever turns were taken until all workers had stopped, they made a serial batch. -/
theorem Pool.serialised_of_stopped {workers : Nat} (manned : 0 < workers) (world : World σ)
    (turns : List Nat) (stopped : ∀ worker ∈
      (play around directory names turns (start workers names.length, world)).1.workers,
        worker = .stopped) :
    let last := play around directory names turns (start workers names.length, world)
    ∃ order, Serialised around directory names world last.2 (last.1.results names) order := by
  obtain ⟨order, accounts, fresh, serial⟩ :=
    (Serial.start around directory names workers world).play turns
  refine ⟨order, serial.serialised stopped ?_⟩
  rw [← List.length_pos_iff, play_length]
  simpa [start] using manned

/-- Whatever turns the workers take, the batch that they share is a serial one. -/
theorem Pool.attemptAll_serialised (turns : List Nat) {workers : Nat} (manned : 0 < workers)
    (world : World σ) :
    let last := (attemptAll (World.workplace around directory turns) names workers).run world
    ∃ order, Serialised around directory names world last.2 last.1 order := by
  obtain ⟨all, stopped, run⟩ := exists_end around directory names turns workers world
  rw [run]
  exact serialised_of_stopped around directory names manned world all stopped

/-- The events of attempts that were told one attempt after the other. -/
def toldInOrder (results : List (Outcome × List Event)) : List (Option InputContext × Event) :=
  results.flatMap fun visited => visited.2.map (some visited.1.input, ·)

theorem Batch.attempts_run (turns : List Nat) (order : List (String × Nat)) (world : World σ) :
    (order.mapM (attemptOne (World.workplace around directory turns))).run world =
      let last := (Room.visitAll around directory order).run world.room
      pure (last.1.map Prod.fst, ⟨last.2, world.told ++ toldInOrder last.1⟩) := by
  induction order generalizing world with
  | nil => simp [toldInOrder, Room.visitAll_nil]
  | cons entry order ih =>
    let first := (Room.visit around directory entry).run world.room
    have attempted : (attemptOne (World.workplace around directory turns) entry).run world =
        pure (first.1.1, ⟨first.2, world.told ++ first.1.2.map (some first.1.1.input, ·)⟩) := by
      have input : first.1.1.input = ⟨entry.1, entry.2⟩ :=
        congrArg (fun entry : String × Nat => (⟨entry.1, entry.2⟩ : InputContext))
          (Room.visit_entry around directory entry world.room)
      rw [attemptOne, World.attempt_inside, input]
      rfl
    rw [List.mapM_cons, StateT.run_bind, attempted, pure_bind, StateT.run_bind, ih]
    simp [Room.visitAll_cons, toldInOrder, first]

theorem eventsFor_told (input other : InputContext) (events : List Event) :
    eventsFor input (events.map (some other, ·)) = if other = input then events else [] := by
  by_cases same : other = input <;> simp [eventsFor, same]

theorem eventsFor_toldInOrder {results : List (Outcome × List Event)}
    (distinct : (results.map fun visited => visited.1.input).Nodup)
    {visited : Outcome × List Event} (member : visited ∈ results) :
    eventsFor visited.1.input (toldInOrder results) = visited.2 := by
  obtain ⟨first, last, rfl⟩ := List.append_of_mem member
  rw [List.map_append, List.map_cons, List.nodup_middle, List.nodup_cons,
    ← List.map_append] at distinct
  have silent (others : List (Outcome × List Event)) (apart : ∀ other ∈ others,
      other ∈ first ++ last) : eventsFor visited.1.input (toldInOrder others) = [] := by
    induction others with
    | nil => rfl
    | cons other others ih =>
      have different : other.1.input ≠ visited.1.input := fun same =>
        distinct.1 (List.mem_map.mpr ⟨other, apart other List.mem_cons_self, same⟩)
      have later := ih fun another member => apart another (List.mem_cons_of_mem other member)
      rw [toldInOrder, List.flatMap_cons, eventsFor_append, eventsFor_told, if_neg different]
      exact later
  rw [toldInOrder, List.flatMap_append, List.flatMap_cons, eventsFor_append, eventsFor_append,
    eventsFor_told, if_pos rfl, ← toldInOrder, ← toldInOrder,
    silent first fun other early => List.mem_append_left _ early,
    silent last fun other late => List.mem_append_right _ late, List.nil_append, List.append_nil]

theorem Batch.attemptAll_serialised (turns : List Nat) (world : World σ) :
    let last := (attemptAll (World.workplace around directory turns) names).run world
    Serialised around directory names world last.2 last.1 names.zipIdx := by
  rw [attemptAll, attempts_run]
  have entries := Room.visitAll_entries around directory names.zipIdx world.room
  refine ⟨.rfl, rfl, .rfl, ?_, _, rfl, ?_, ?_⟩
  · exact (List.map_map ..).trans entries
  · intro visited member
    refine eventsFor_toldInOrder ?_ member
    refine List.Nodup.of_map InputContext.number ?_
    have numbers := congrArg (List.map Prod.snd) entries
    rw [List.map_map, List.zipIdx_map_snd] at numbers
    rw [List.map_map]
    exact numbers ▸ List.nodup_range'
  · intro entry member
    obtain ⟨visited, made, event⟩ := List.mem_flatMap.mp member
    obtain ⟨event, -, rfl⟩ := List.mem_map.mp event
    exact ⟨visited.1, List.mem_map.mpr ⟨visited, made, rfl⟩, rfl⟩

end QuestRecords
