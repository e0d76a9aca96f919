import QuestRecords.Proofs.Batch.World
import Mathlib.Data.List.Basic

namespace QuestRecords

/-- What a worker has in hand before its attempt. -/
def Worker.assignment? : Worker → Option (String × Nat)
  | assigned name number => some (name, number)
  | _ => none

def Worker.message? : Worker → Option (Outcome × List Event)
  | telling outcome left => some (outcome, left)
  | _ => none

def Outcome.input (outcome : Outcome) : InputContext := ⟨outcome.name, outcome.number⟩

/-- The events that were told for one quest. -/
def eventsFor (input : InputContext) (told : List (Option InputContext × Event)) : List Event :=
  told.filterMap fun entry => if entry.1 = some input then some entry.2 else none

namespace Pool

variable {σ : Type} (around : Surroundings σ) (directory : String) (names : List String)

/-- One turn of a worker, as a step of the pool and the world. -/
def turn (state : Pool × World σ) (worker : Nat) : Pool × World σ :=
  match state.1.workerAt worker with
  | .free => (state.1.take names worker, state.2)
  | .assigned name number =>
    let (visited, room) := Room.visit around directory (name, number) state.2.room
    (state.1.setWorker worker (.telling visited.1 visited.2), { state.2 with room })
  | .telling outcome (event :: left) =>
    (state.1.setWorker worker (.telling outcome left),
      { state.2 with told := state.2.told ++ [(some outcome.input, event)] })
  | .telling outcome [] => (state.1.store worker outcome, state.2)
  | .stopped => state

def play (turns : List Nat) (state : Pool × World σ) : Pool × World σ :=
  turns.foldl (turn around directory names) state

theorem step_eq_turn (turns : List Nat) (pool : Pool) (world : World σ) (worker : Nat) :
    (step (World.workplace around directory turns) names pool worker).run world =
      turn around directory names (pool, world) worker := by
  rw [step, turn]
  dsimp only
  cases pool.workerAt worker with
  | free => rfl
  | assigned name number =>
    dsimp only
    rw [World.attempt_inside]
    rfl
  | telling outcome left => cases left <;> rfl
  | stopped => rfl

theorem steps_eq_play (turns made : List Nat) (pool : Pool) (world : World σ) :
    (steps (World.workplace around directory turns) names pool made).run world =
      play around directory names made (pool, world) := by
  induction made generalizing pool world with
  | nil => rfl
  | cons worker made ih =>
    rw [play, List.foldl_cons, ← step_eq_turn around directory names turns pool world worker]
    exact ih _ _

end Pool

/-- Putting a value into a place exchanges what a partial map gives for the old and the new one. -/
theorem filterMap_set_perm {α β : Type} (read : α → Option β) {values : List α} {place : Nat}
    {old : α} (found : values[place]? = some old) (new : α) :
    ((values.set place new).filterMap read ++ (read old).toList).Perm
      (values.filterMap read ++ (read new).toList) := by
  induction values generalizing place with
  | nil => simp at found
  | cons value rest ih =>
    cases place with
    | zero =>
      cases found
      have unfolded (value : α) : (value :: rest).filterMap read =
          (read value).toList ++ rest.filterMap read := by
        cases image : read value <;> simp [image]
      rw [List.set_cons_zero, unfolded, unfolded]
      refine List.perm_append_comm.trans ?_
      rw [List.append_assoc]
      exact List.Perm.append_left _ List.perm_append_comm
    | succ place =>
      have kept := ih (by simpa using found)
      rw [List.set_cons_succ, List.filterMap_cons, List.filterMap_cons]
      cases read value with
      | none => exact kept
      | some image => exact kept.cons image

namespace Room

variable {σ : Type} (around : Surroundings σ) (directory : String)

theorem visit_entry (entry : String × Nat) (room : Room σ) :
    let outcome := ((visit around directory entry).run room).1.1
    (outcome.name, outcome.number) = entry := by
  obtain ⟨number, name⟩ := Outcome.ofResult_entry entry.2 entry.1
    ((Attempt.run Batch.enteringMessage (workplace around directory).fetcher
      (workplace around directory).output entry.1).run room).1.result
  exact Prod.ext name number

theorem visitAll_nil (room : Room σ) : (visitAll around directory []).run room = ([], room) := rfl

theorem visitAll_cons (entry : String × Nat) (order : List (String × Nat)) (room : Room σ) :
    (visitAll around directory (entry :: order)).run room =
      let first := (visit around directory entry).run room
      let others := (visitAll around directory order).run first.2
      (first.1 :: others.1, others.2) := by
  rw [visitAll, List.mapM_cons]
  rfl

theorem visitAll_append (order more : List (String × Nat)) (room : Room σ) :
    (visitAll around directory (order ++ more)).run room =
      let first := (visitAll around directory order).run room
      let others := (visitAll around directory more).run first.2
      (first.1 ++ others.1, others.2) := by
  induction order generalizing room with
  | nil => rfl
  | cons entry order ih =>
    rw [List.cons_append, visitAll_cons, visitAll_cons]
    simp only [ih]
    rfl

theorem visitAll_met (order : List (String × Nat)) (room : Room σ) :
    ∀ visited ∈ ((visitAll around directory order).run room).1, ∃ entry ∈ order, ∃ met : Room σ,
      visited = ((visit around directory entry).run met).1 := by
  induction order generalizing room with
  | nil => exact fun _ member => absurd member List.not_mem_nil
  | cons entry order ih =>
    rw [visitAll_cons]
    refine List.forall_mem_cons.mpr ⟨⟨entry, List.mem_cons_self, room, rfl⟩, fun visited later => ?_⟩
    obtain ⟨entry, member, met⟩ := ih _ visited later
    exact ⟨entry, List.mem_cons_of_mem _ member, met⟩

/-- Attempts of which none depends on its room are those made in one room. -/
theorem visitAll_alike {order : List (String × Nat)} (alike : ∀ entry ∈ order, ∀ met met' : Room σ,
      ((visit around directory entry).run met).1 = ((visit around directory entry).run met').1)
    (room other : Room σ) : ((visitAll around directory order).run room).1 =
      order.map fun entry => ((visit around directory entry).run other).1 := by
  induction order generalizing room with
  | nil => rfl
  | cons entry order ih =>
    obtain ⟨first, others⟩ := List.forall_mem_cons.mp alike
    rw [visitAll_cons, List.map_cons, ← ih others ((visit around directory entry).run room).2,
      first other room]

/-- Attempts end with outcomes that name the quests attempted, in their order. -/
theorem visitAll_entries (order : List (String × Nat)) (room : Room σ) :
    ((visitAll around directory order).run room).1.map (fun visited =>
      (visited.1.name, visited.1.number)) = order := by
  induction order generalizing room with
  | nil => rfl
  | cons entry order ih =>
    rw [visitAll_cons]
    exact congr (congrArg List.cons (visit_entry around directory entry room)) (ih _)

end Room
end QuestRecords
