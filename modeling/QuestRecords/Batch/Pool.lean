import QuestRecords.Batch.Workplace

/-! A batch shared by workers. A worker takes the next quest of the list, attempts it, delivers its
events one by one, and puts the outcome into the place of that quest. Each of these is one turn, and
the turns of the workers may come in any order. A worker that finds the list at its end stops. -/
namespace QuestRecords

/-- What a worker is at. -/
inductive Worker where
  | free
  /-- A quest of the list is to be attempted. -/
  | assigned (name : String) (number : Nat)
  /-- The attempt was made; some of its events are still to be delivered. -/
  | telling (outcome : Outcome) (left : List Event)
  | stopped

namespace Worker

/-- How many turns pass until the worker is at something else. -/
def span : Worker → Nat
  | free => 1
  | assigned _ _ => 1
  | telling _ left => left.length + 1
  | stopped => 0

end Worker

/-- The state of a shared batch: the number of the next quest to be taken, the workers, and a place
for the outcome of every quest. -/
structure Pool where
  next : Nat
  workers : List Worker
  outcomes : List (Option Outcome)

namespace Pool

/-- The pool before the first turn. -/
def start (workers quests : Nat) : Pool :=
  { next := 0
    workers := List.replicate workers .free
    outcomes := List.replicate quests none }

/-- A worker that is not in the pool counts as stopped. -/
def workerAt (pool : Pool) (worker : Nat) : Worker := pool.workers.getD worker .stopped

def setWorker (pool : Pool) (worker : Nat) (state : Worker) : Pool :=
  { pool with workers := pool.workers.set worker state }

/-- A worker takes the next quest of the list, or stops at its end. -/
def take (pool : Pool) (names : List String) (worker : Nat) : Pool :=
  let taken := { pool with next := pool.next + 1 }
  match names[pool.next]? with
  | some name => taken.setWorker worker (.assigned name pool.next)
  | none => taken.setWorker worker .stopped

/-- A worker puts an outcome into its place, and is free again. -/
def store (pool : Pool) (worker : Nat) (outcome : Outcome) : Pool :=
  { pool with outcomes := pool.outcomes.set outcome.number (some outcome) }.setWorker worker .free

/-- One turn of a worker. -/
def step [Monad m] (workplace : Workplace m) (names : List String) (pool : Pool) (worker : Nat) :
    m Pool :=
  match pool.workerAt worker with
  | .free => return pool.take names worker
  | .assigned name number => do
    let (outcome, events) ← Batch.attempt workplace name number
    return pool.setWorker worker (.telling outcome events)
  | .telling outcome (event :: left) => do
    workplace.deliver (some ⟨outcome.name, outcome.number⟩) [event]
    return pool.setWorker worker (.telling outcome left)
  | .telling outcome [] => return pool.store worker outcome
  | .stopped => return pool

/-- The turns of the workers, in an order that is given. -/
def steps [Monad m] (workplace : Workplace m) (names : List String) (pool : Pool)
    (turns : List Nat) : m Pool :=
  turns.foldlM (step workplace names) pool

/-- A worker has turns until it is at something else. -/
def stretch [Monad m] (workplace : Workplace m) (names : List String) (pool : Pool) (worker : Nat) :
    m Pool :=
  pool.steps workplace names (List.replicate (pool.workerAt worker).span worker)

/-- All workers in order, each for as long as one whole quest takes. -/
def round (workers : Nat) : List Nat :=
  (List.range workers).flatMap fun worker => List.replicate 3 worker

/-- Lets all workers go on until they stop. In one round every worker that has not stopped ends with
a quest, so there are no more rounds with quests left than quests, and one round to stop in. -/
def finish [Monad m] (workplace : Workplace m) (names : List String) (pool : Pool) : m Pool :=
  let rounds := (List.range (names.length + 1)).flatMap fun _ => round pool.workers.length
  rounds.foldlM (stretch workplace names) pool

/-- What is reported of a quest that no worker took. -/
def untaken (name : String) (number : Nat) : Outcome :=
  ⟨number, name, .skipped .fetching .internalError "input was never processed"⟩

/-- The outcomes in the order of the list. -/
def results (pool : Pool) (names : List String) : List Outcome :=
  (pool.outcomes.zip names).zipIdx.map fun ((outcome?, name), number) =>
    outcome?.getD (untaken name number)

/-- Attempts all quests by workers that take turns: first as the workplace says, and then in rounds
until all have stopped. -/
def attemptAll [Monad m] (workplace : Workplace m) (names : List String) (workers : Nat) :
    m (List Outcome) := do
  let pool ← (start workers names.length).steps workplace names workplace.turns
  let pool ← pool.finish workplace names
  return pool.results names

end Pool
end QuestRecords
