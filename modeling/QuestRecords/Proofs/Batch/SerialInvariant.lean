import QuestRecords.Proofs.Batch.Turn
import Mathlib.Data.List.Nodup

/-! The invariant of a shared batch. Whatever turns were taken, the attempts made so far have an
order in which making them one after the other leaves the same room, every quest that was taken is
in one worker's hands or attempted once, and what was told of an attempt is a beginning of its
events. -/
namespace QuestRecords

/-- An attempt that was made: what became of it, and its events, told and still to be told. -/
structure Account where
  outcome : Outcome
  told : List Event
  left : List Event

def Account.visited (account : Account) : Outcome × List Event :=
  (account.outcome, account.told ++ account.left)

def Account.pending (account : Account) : Outcome × List Event := (account.outcome, account.left)

variable {σ : Type} (around : Surroundings σ) (directory : String) (names : List String)

/-- The state of a shared batch that began in the world `before`, with the attempts made since in
their order. -/
structure Serial (before : World σ) (order : List (String × Nat)) (accounts : List Account)
    (fresh : List (Option InputContext × Event)) (pool : Pool) (world : World σ) : Prop where
  ran : (Room.visitAll around directory order).run before.room =
    (accounts.map Account.visited, world.room)
  taken : (order ++ pool.workers.filterMap Worker.assignment?).Perm (names.zipIdx.take pool.next)
  placed : ((pool.outcomes.filterMap id).map (·, []) ++ pool.workers.filterMap Worker.message?).Perm
    (accounts.map Account.pending)
  told : world.told = before.told ++ fresh
  toldFor : ∀ account ∈ accounts, eventsFor account.outcome.input fresh = account.told
  attributed : ∀ entry ∈ fresh, ∃ account ∈ accounts, entry.1 = some account.outcome.input
  places : pool.outcomes.length = names.length
  numbered : ∀ (place : Nat) (outcome : Outcome), pool.outcomes[place]? = some (some outcome) →
    outcome.number = place
  drained : .stopped ∈ pool.workers → names.length ≤ pool.next

theorem Pool.found_of_workerAt {pool : Pool} {worker : Nat} {state : Worker}
    (at_work : pool.workerAt worker = state) (working : state ≠ .stopped) :
    pool.workers[worker]? = some state := by
  rw [workerAt, List.getD_eq_getElem?_getD] at at_work
  cases found : pool.workers[worker]? with
  | none =>
    rw [found] at at_work
    exact absurd at_work.symm working
  | some other =>
    rw [found] at at_work
    exact congrArg some at_work

@[simp] theorem eventsFor_append (input : InputContext)
    (first last : List (Option InputContext × Event)) :
    eventsFor input (first ++ last) = eventsFor input first ++ eventsFor input last :=
  List.filterMap_append

theorem eventsFor_single (input other : InputContext) (event : Event) :
    eventsFor input [(some other, event)] = if other = input then [event] else [] := by
  by_cases same : other = input <;> simp [eventsFor, same]

theorem take_numbers_nodup (names : List String) (count : Nat) :
    ((names.zipIdx.take count).map Prod.snd).Nodup := by
  refine List.Nodup.sublist ((List.take_sublist count names.zipIdx).map Prod.snd) ?_
  rw [List.zipIdx_map_snd]
  exact List.nodup_range'

namespace Serial

variable {around directory names} {before world : World σ} {order : List (String × Nat)}
variable {accounts : List Account} {fresh : List (Option InputContext × Event)} {pool : Pool}

theorem entries (serial : Serial around directory names before order accounts fresh pool world) :
    accounts.map (fun account => (account.outcome.name, account.outcome.number)) = order := by
  have made := Room.visitAll_entries around directory order before.room
  rw [serial.ran] at made
  simpa [Function.comp_def, Account.visited] using made

/-- No quest is attempted twice, nor attempted and in somebody's hands. -/
theorem nodup (serial : Serial around directory names before order accounts fresh pool world) :
    ((order ++ pool.workers.filterMap Worker.assignment?).map Prod.snd).Nodup :=
  (serial.taken.map Prod.snd).nodup_iff.mpr (take_numbers_nodup names pool.next)

theorem accounts_nodup
    (serial : Serial around directory names before order accounts fresh pool world) :
    (accounts.map fun account => account.outcome.number).Nodup := by
  have whole := serial.nodup
  rw [List.map_append, ← serial.entries, List.map_map] at whole
  exact (List.nodup_append.mp whole).1

theorem drained_set (serial : Serial around directory names before order accounts fresh pool world)
    {worker : Nat} {state : Worker} (working : state ≠ .stopped)
    (stopped : .stopped ∈ pool.workers.set worker state) : names.length ≤ pool.next := by
  rcases List.mem_or_eq_of_mem_set stopped with earlier | now
  · exact serial.drained earlier
  · exact absurd now.symm working

/-- Nothing was told for a quest in somebody's hands: what was told belongs to attempts of other
quests. -/
theorem untold (serial : Serial around directory names before order accounts fresh pool world)
    {worker : Nat} {entry : String × Nat}
    (assigned : pool.workers[worker]? = some (.assigned entry.1 entry.2)) {input : InputContext}
    (number : input.number = entry.2) : eventsFor input fresh = [] := by
  apply List.filterMap_eq_nil_iff.mpr
  intro told member
  obtain ⟨account, made, same⟩ := serial.attributed told member
  have distinct := serial.nodup
  rw [List.map_append, ← serial.entries, List.map_map] at distinct
  have inHand : entry.2 ∈ (pool.workers.filterMap Worker.assignment?).map Prod.snd :=
    List.mem_map.mpr ⟨entry, List.mem_filterMap.mpr ⟨_, List.mem_of_getElem? assigned, rfl⟩, rfl⟩
  have attempted : account.outcome.number ∈
      accounts.map fun account => account.outcome.number := List.mem_map.mpr ⟨_, made, rfl⟩
  have apart := (List.nodup_append.mp distinct).2.2 _ attempted _ inHand
  rw [same, if_neg]
  intro equal
  have inputs := congrArg InputContext.number (Option.some.inj equal)
  exact apart (inputs.trans number)

theorem input_ne {first last : List Account} {account : Account}
    (serial : Serial around directory names before order (first ++ account :: last) fresh pool
      world) : ∀ other ∈ first ++ last, other.outcome.input ≠ account.outcome.input := by
  intro other member same
  have distinct := serial.accounts_nodup
  rw [List.map_append, List.map_cons, List.nodup_middle, ← List.map_append,
    List.nodup_cons] at distinct
  exact distinct.1 (List.mem_map.mpr ⟨other, member, congrArg InputContext.number same⟩)

theorem start (around : Surroundings σ) (directory : String) (names : List String) (workers : Nat)
    (world : World σ) :
    Serial around directory names world [] [] [] (Pool.start workers names.length) world where
  ran := rfl
  taken := by simp [Pool.start, List.filterMap_replicate, Worker.assignment?]
  placed := by simp [Pool.start, List.filterMap_replicate, Worker.message?]
  told := (List.append_nil _).symm
  toldFor := by simp
  attributed := by simp
  places := by simp [Pool.start]
  numbered := by
    intro place outcome found
    simp [Pool.start, List.getElem?_replicate] at found
  drained := by simp [Pool.start]

theorem take (serial : Serial around directory names before order accounts fresh pool world)
    {worker : Nat} (free : pool.workers[worker]? = some .free) :
    Serial around directory names before order accounts fresh (pool.take names worker) world := by
  rw [Pool.take]
  cases found : names[pool.next]? with
  | some name =>
    have assigned := filterMap_set_perm Worker.assignment? free (.assigned name pool.next)
    have message := filterMap_set_perm Worker.message? free (.assigned name pool.next)
    simp only [Worker.assignment?, Worker.message?, Option.toList_none, Option.toList_some,
      List.append_nil] at assigned message
    have entry : names.zipIdx[pool.next]? = some (name, pool.next) := by
      simp [List.getElem?_zipIdx, found]
    refine { serial with taken := ?_, placed := ?_, drained := ?_ }
    · dsimp only [Pool.setWorker]
      rw [List.take_add_one, entry, Option.toList_some]
      refine (List.Perm.append_left order assigned).trans ?_
      rw [← List.append_assoc]
      exact List.Perm.append_right _ serial.taken
    · exact (List.Perm.append_left _ message).trans serial.placed
    · intro stopped
      exact Nat.le_succ_of_le (serial.drained_set (by simp) stopped)
  | none =>
    have assigned := filterMap_set_perm Worker.assignment? free .stopped
    have message := filterMap_set_perm Worker.message? free .stopped
    simp only [Worker.assignment?, Worker.message?, Option.toList_none, List.append_nil]
      at assigned message
    have ended : names.length ≤ pool.next := List.getElem?_eq_none_iff.mp found
    refine { serial with taken := ?_, placed := ?_, drained := ?_ }
    · dsimp only [Pool.setWorker]
      have whole : names.zipIdx.take (pool.next + 1) = names.zipIdx.take pool.next := by
        rw [List.take_of_length_le (by simp; omega), List.take_of_length_le (by simpa using ended)]
      rw [whole]
      exact (List.Perm.append_left order assigned).trans serial.taken
    · exact (List.Perm.append_left _ message).trans serial.placed
    · intro _
      exact Nat.le_succ_of_le ended

theorem visit (serial : Serial around directory names before order accounts fresh pool world)
    {worker : Nat} (entry : String × Nat)
    (assigned : pool.workers[worker]? = some (.assigned entry.1 entry.2)) :
    let visited := (Room.visit around directory entry).run world.room
    Serial around directory names before (order ++ [entry])
      (accounts ++ [⟨visited.1.1, [], visited.1.2⟩]) fresh
      (pool.setWorker worker (.telling visited.1.1 visited.1.2))
      { world with room := visited.2 } := by
  intro visited
  have named : (visited.1.1.name, visited.1.1.number) = entry :=
    Room.visit_entry around directory entry world.room
  have assignments := filterMap_set_perm Worker.assignment? assigned
    (.telling visited.1.1 visited.1.2)
  have messages := filterMap_set_perm Worker.message? assigned (.telling visited.1.1 visited.1.2)
  simp only [Worker.assignment?, Worker.message?, Option.toList_none, Option.toList_some,
    List.append_nil] at assignments messages
  refine { serial with ran := ?_, taken := ?_, placed := ?_, toldFor := ?_, attributed := ?_,
                       drained := ?_ }
  · rw [Room.visitAll_append, serial.ran, List.map_append]
    rfl
  · rw [List.append_assoc]
    refine (List.Perm.append_left order ?_).trans serial.taken
    exact List.perm_append_comm.trans assignments
  · rw [List.map_append]
    refine (List.Perm.append_left _ messages).trans ?_
    rw [← List.append_assoc]
    exact List.Perm.append_right _ serial.placed
  · intro account member
    rcases List.mem_append.mp member with earlier | now
    · exact serial.toldFor account earlier
    · cases List.mem_singleton.mp now
      exact serial.untold assigned (congrArg Prod.snd named)
  · intro told member
    obtain ⟨account, made, same⟩ := serial.attributed told member
    exact ⟨account, List.mem_append_left _ made, same⟩
  · exact serial.drained_set (by simp)

theorem mem_zipIdx (serial : Serial around directory names before order accounts fresh pool world)
    {account : Account} (made : account ∈ accounts) :
    (account.outcome.name, account.outcome.number) ∈ names.zipIdx := by
  have attempted : (account.outcome.name, account.outcome.number) ∈ order := by
    rw [← serial.entries]
    exact List.mem_map.mpr ⟨account, made, rfl⟩
  exact List.mem_of_mem_take (serial.taken.subset (List.mem_append_left _ attempted))

theorem exists_account
    (serial : Serial around directory names before order accounts fresh pool world) {worker : Nat}
    {outcome : Outcome} {left : List Event}
    (telling : pool.workers[worker]? = some (.telling outcome left)) :
    ∃ account ∈ accounts, account.outcome = outcome ∧ account.left = left := by
  have inHand : (outcome, left) ∈ pool.workers.filterMap Worker.message? :=
    List.mem_filterMap.mpr ⟨_, List.mem_of_getElem? telling, rfl⟩
  obtain ⟨account, made, same⟩ :=
    List.mem_map.mp (serial.placed.subset (List.mem_append_right _ inHand))
  exact ⟨account, made, congrArg Prod.fst same, congrArg Prod.snd same⟩

theorem tell (serial : Serial around directory names before order accounts fresh pool world)
    {worker : Nat} {outcome : Outcome} {event : Event} {left : List Event}
    (telling : pool.workers[worker]? = some (.telling outcome (event :: left))) :
    ∃ accounts', Serial around directory names before order accounts'
      (fresh ++ [(some outcome.input, event)]) (pool.setWorker worker (.telling outcome left))
      { world with told := world.told ++ [(some outcome.input, event)] } := by
  obtain ⟨account, made, rfl, ahead⟩ := serial.exists_account telling
  obtain ⟨first, last, rfl⟩ := List.append_of_mem made
  have assignments := filterMap_set_perm Worker.assignment? telling (.telling account.outcome left)
  have messages := filterMap_set_perm Worker.message? telling (.telling account.outcome left)
  simp only [Worker.assignment?, Worker.message?, Option.toList_none, Option.toList_some,
    List.append_nil] at assignments messages
  have others := serial.input_ne
  refine ⟨first ++ ⟨account.outcome, account.told ++ [event], left⟩ :: last,
    { serial with ran := ?_, taken := ?_, placed := ?_, told := ?_, toldFor := ?_,
                  attributed := ?_, drained := ?_ }⟩
  · rw [serial.ran]
    simp [Account.visited, ahead]
  · exact (List.Perm.append_left order assignments).trans serial.taken
  · have exchanged := (List.Perm.append_left
      ((pool.outcomes.filterMap id).map (·, ([] : List Event))) messages)
    rw [← List.append_assoc, ← List.append_assoc] at exchanged
    have whole := exchanged.trans (List.Perm.append_right _ serial.placed)
    apply (List.perm_append_right_iff [(account.outcome, event :: left)]).mp
    refine whole.trans ?_
    simp only [List.map_append, List.map_cons, Account.pending, ahead, List.append_assoc,
      List.cons_append]
    refine List.Perm.append_left _ ?_
    exact (List.perm_append_singleton _ _).cons _ |>.trans
      ((List.Perm.swap _ _ _).trans ((List.perm_append_singleton _ _).symm.cons _))
  · rw [serial.told, List.append_assoc]
  · intro other member
    rcases List.mem_append.mp member with earlier | later
    · have different := others other (List.mem_append_left _ earlier)
      have kept := serial.toldFor other (List.mem_append_left _ earlier)
      simp [kept, eventsFor_single, Ne.symm different]
    · rcases List.mem_cons.mp later with rfl | later
      · simp [serial.toldFor account made, eventsFor_single]
      · have different := others other (List.mem_append_right _ later)
        have kept := serial.toldFor other (List.mem_append_right _ (List.mem_cons_of_mem _ later))
        simp [kept, eventsFor_single, Ne.symm different]
  · intro entry member
    rcases List.mem_append.mp member with earlier | now
    · obtain ⟨other, present, same⟩ := serial.attributed entry earlier
      rcases List.mem_append.mp present with before | later
      · exact ⟨other, List.mem_append_left _ before, same⟩
      · rcases List.mem_cons.mp later with rfl | later
        · exact ⟨_, List.mem_append_right _ List.mem_cons_self, same⟩
        · exact ⟨other, List.mem_append_right _ (List.mem_cons_of_mem _ later), same⟩
    · cases List.mem_singleton.mp now
      exact ⟨_, List.mem_append_right _ List.mem_cons_self, rfl⟩
  · exact serial.drained_set (by simp)

theorem place_empty
    (serial : Serial around directory names before order accounts fresh pool world) {worker : Nat}
    {outcome : Outcome} (telling : pool.workers[worker]? = some (.telling outcome [])) :
    pool.outcomes[outcome.number]? = some none := by
  obtain ⟨account, made, rfl, _⟩ := serial.exists_account telling
  have inside : account.outcome.number < pool.outcomes.length := by
    rw [serial.places]
    exact (List.mem_zipIdx' (serial.mem_zipIdx made)).1
  rw [List.getElem?_eq_getElem inside]
  cases found : pool.outcomes[account.outcome.number] with
  | none => rfl
  | some other =>
    exfalso
    have stored : pool.outcomes[account.outcome.number]? = some (some other) := by
      rw [List.getElem?_eq_getElem inside, found]
    have number := serial.numbered _ _ stored
    have distinct := (serial.placed.map fun pending => pending.1.number).nodup_iff.mpr (by
      simpa [Function.comp_def, Account.pending] using serial.accounts_nodup)
    rw [List.map_append] at distinct
    have left : other.number ∈ (((pool.outcomes.filterMap id).map (·, ([] : List Event))).map
        fun pending => pending.1.number) := by
      have member : other ∈ pool.outcomes.filterMap id :=
        List.mem_filterMap.mpr ⟨_, List.mem_of_getElem? stored, rfl⟩
      simpa using ⟨other, by simpa using member, rfl⟩
    have right : account.outcome.number ∈ ((pool.workers.filterMap Worker.message?).map
        fun pending => pending.1.number) :=
      List.mem_map.mpr ⟨(account.outcome, []),
        List.mem_filterMap.mpr ⟨_, List.mem_of_getElem? telling, rfl⟩, rfl⟩
    exact (List.nodup_append.mp distinct).2.2 _ left _ right number

theorem store (serial : Serial around directory names before order accounts fresh pool world)
    {worker : Nat} {outcome : Outcome}
    (telling : pool.workers[worker]? = some (.telling outcome [])) :
    Serial around directory names before order accounts fresh (pool.store worker outcome)
      world := by
  have empty := serial.place_empty telling
  have assignments := filterMap_set_perm Worker.assignment? telling .free
  have messages := filterMap_set_perm Worker.message? telling .free
  have stored := filterMap_set_perm id empty (some outcome)
  simp only [Worker.assignment?, Worker.message?, Option.toList_none, Option.toList_some,
    List.append_nil, id_eq] at assignments messages stored
  refine { serial with taken := ?_, placed := ?_, places := ?_, numbered := ?_, drained := ?_ }
  · exact (List.Perm.append_left order assignments).trans serial.taken
  · have written := stored.map (·, ([] : List Event))
    rw [List.map_append, List.map_singleton] at written
    refine (List.Perm.append_right _ written).trans (List.Perm.trans ?_ serial.placed)
    rw [List.append_assoc]
    exact List.Perm.append_left _ (List.perm_append_comm.trans messages)
  · simpa [Pool.store, Pool.setWorker] using serial.places
  · intro place other found
    simp only [Pool.store, Pool.setWorker, List.getElem?_set] at found
    split at found
    · split at found
      · rename_i same _
        cases found
        exact same
      · cases found
    · exact serial.numbered place other found
  · exact serial.drained_set (by simp)

/-- Every turn of every worker preserves the invariant. -/
theorem turn (serial : Serial around directory names before order accounts fresh pool world)
    (worker : Nat) :
    let next := Pool.turn around directory names (pool, world) worker
    ∃ order accounts fresh,
      Serial around directory names before order accounts fresh next.1 next.2 := by
  dsimp only [Pool.turn]
  cases at_work : pool.workerAt worker with
  | free =>
    have found := Pool.found_of_workerAt at_work (by simp)
    exact ⟨order, accounts, fresh, serial.take found⟩
  | assigned name number =>
    have found := Pool.found_of_workerAt at_work (by simp)
    exact ⟨_, _, fresh, serial.visit (name, number) found⟩
  | telling outcome left =>
    have found := Pool.found_of_workerAt at_work (by simp)
    cases left with
    | cons event left =>
      obtain ⟨accounts', kept⟩ := serial.tell found
      exact ⟨order, accounts', _, kept⟩
    | nil => exact ⟨order, accounts, fresh, serial.store found⟩
  | stopped => exact ⟨order, accounts, fresh, serial⟩

theorem play (serial : Serial around directory names before order accounts fresh pool world)
    (turns : List Nat) :
    let last := Pool.play around directory names turns (pool, world)
    ∃ order accounts fresh,
      Serial around directory names before order accounts fresh last.1 last.2 := by
  induction turns generalizing order accounts fresh pool world with
  | nil => exact ⟨order, accounts, fresh, serial⟩
  | cons worker turns ih =>
    obtain ⟨_, _, _, kept⟩ := serial.turn worker
    exact ih kept

end Serial
end QuestRecords
