import QuestRecords.Batch.Run
import Mathlib.Logic.Function.Basic

/-! A batch in a world of which only the rules of the file map are fixed. The fetcher, the faults of
the disk and the clock may answer as they like and remember what they were asked; a write that does
not fail gives its path a new content and changes no other. Attempts see the room, which is the
world without the events that were told. -/
namespace QuestRecords

variable {σ : Type}

/-- How the fetcher, the disk and the clock behave, with a state that is theirs alone. -/
structure Surroundings (σ : Type) where
  location : String → String
  answer : String → StateM σ Fetched
  directoryFault : String → StateM σ (Option FileFault)
  writeFault : String → ByteArray → StateM σ (Option FileFault)
  now : StateM σ Nat

/-- A fetcher whose answer depends on the class alone, and a disk whose faults depend on the path
alone. Only the clock may go on. -/
def Surroundings.steady (location : String → String) (answer : String → Fetched)
    (directoryFault writeFault : String → Option FileFault) (now : StateM σ Nat) :
    Surroundings σ where
  location
  answer className := pure (answer className)
  directoryFault path := pure (directoryFault path)
  writeFault path _ := pure (writeFault path)
  now

/-- The state of the surroundings, the classes that were asked for with the answers, and the files
by path. -/
structure Room (σ : Type) where
  outside : σ
  fetched : List (String × Fetched)
  files : String → Option ByteArray

namespace Room

def outwards (answer : StateM σ α) : StateM (Room σ) α := fun room =>
  let (value, outside) := answer room.outside
  (value, { room with outside })

def fetch (around : Surroundings σ) (className : String) : StateM (Room σ) Fetched := do
  let answer ← outwards (around.answer className)
  modify fun room => { room with fetched := room.fetched ++ [(className, answer)] }
  return answer

/-- The file map as a disk. There are no directories to be seen in it. -/
def access (around : Surroundings σ) : FileAccess (StateM (Room σ)) where
  kind path := return match (← get).files path with
    | some content => .ok (.file content.size)
    | none => .error .notFound
  read path := return match (← get).files path with
    | some content => .ok content
    | none => .error .notFound
  list _ := return .error .notADirectory
  makeDirectories path := do
    match ← outwards (around.directoryFault path) with
    | some fault => return .error fault
    | none => return .ok ()
  write path content := do
    match ← outwards (around.writeFault path content) with
    | some fault => return .error fault
    | none =>
      modify fun room => { room with files := Function.update room.files path (some content) }
      return .ok ()

def workplace (around : Surroundings σ) (directory : String) : Workplace (StateM (Room σ)) where
  fetcher := ⟨around.location, fetch around⟩
  output := Output.directory (access around) directory
  deliver _ _ := return ()
  now := outwards around.now

def visit (around : Surroundings σ) (directory : String) (entry : String × Nat) :
    StateM (Room σ) (Outcome × List Event) :=
  Batch.attempt (workplace around directory) entry.1 entry.2

def visitAll (around : Surroundings σ) (directory : String) (order : List (String × Nat)) :
    StateM (Room σ) (List (Outcome × List Event)) :=
  order.mapM (visit around directory)

end Room

/-- A room, and the events that were told, each with the quest that it was told for. -/
structure World (σ : Type) where
  room : Room σ
  told : List (Option InputContext × Event)

namespace World

/-- What happens in the room leaves the told events as they are. -/
def inside (action : StateM (Room σ) α) : StateM (World σ) α := fun world =>
  let (value, room) := action world.room
  (value, { world with room })

def tell (input? : Option InputContext) (events : List Event) : StateM (World σ) Unit :=
  modify fun world => { world with told := world.told ++ events.map (input?, ·) }

def workplace (around : Surroundings σ) (directory : String) (turns : List Nat) :
    Workplace (StateM (World σ)) where
  fetcher := ⟨around.location, fun className => inside (Room.fetch around className)⟩
  output :=
    { path := (Room.workplace around directory).output.path
      put := fun path text => inside ((Room.workplace around directory).output.put path text) }
  deliver := tell
  now := inside (Room.workplace around directory).now
  turns

theorem inside_bind (first : StateM (Room σ) α) (next : α → StateM (Room σ) β) :
    inside (first >>= next) = inside first >>= fun value => inside (next value) := rfl

variable (around : Surroundings σ) (directory : String) (turns : List Nat)

theorem writeDocument_inside (fileName : String) (document : Json) :
    (workplace around directory turns).output.writeDocument fileName document =
      inside ((Room.workplace around directory).output.writeDocument fileName document) := by
  rw [Output.writeDocument, Output.writeDocument, inside_bind]
  congr 1
  funext written
  cases written <;> rfl

/-- An attempt in the world is an attempt in its room. -/
theorem attempt_inside (name : String) (number : Nat) :
    Batch.attempt (workplace around directory turns) name number =
      inside (Room.visit around directory (name, number)) := by
  have run : Attempt.run Batch.enteringMessage (workplace around directory turns).fetcher
      (workplace around directory turns).output name =
      inside (Attempt.run Batch.enteringMessage (Room.workplace around directory).fetcher
        (Room.workplace around directory).output name) := by
    rw [Attempt.run, Attempt.run, inside_bind]
    congr 1
    funext fetched
    cases fetched with
    | source source =>
      dsimp only
      rw [inside_bind, Output.writeRecord, writeDocument_inside]
      rfl
    | failed error => rfl
    | brokeDown => rfl
  rw [Batch.attempt, run]
  rfl

end World

theorem Outcome.ofResult_entry (number : Nat) (name : String)
    (result : Except Failure (ExtractedQuest × String)) :
    (ofResult number name result).number = number ∧ (ofResult number name result).name = name := by
  cases result with
  | ok done => exact ⟨rfl, rfl⟩
  | error failure => exact ⟨rfl, rfl⟩

end QuestRecords
