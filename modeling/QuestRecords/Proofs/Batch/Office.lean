import QuestRecords.Proofs.Batch.Agree
import QuestRecords.Proofs.Diagnostics.Told

namespace QuestRecords

variable {σ : Type}

/-- A room, and the journal that events are entered into. -/
structure Office (σ : Type) where
  room : Room σ
  journal : Journal

namespace Office

def inside (action : StateM (Room σ) α) : StateM (Office σ) α := fun office =>
  let (value, room) := action office.room
  (value, { office with room })

def deliver (input? : Option InputContext) (events : List Event) : StateM (Office σ) Unit :=
  modify fun office => { office with journal := (office.journal.recordIn input? events).1 }

def workplace (around : Surroundings σ) (directory : String) (turns : List Nat) :
    Workplace (StateM (Office σ)) where
  fetcher := ⟨around.location, fun className => inside (Room.fetch around className)⟩
  output :=
    { path := (Room.workplace around directory).output.path
      put := fun path text => inside ((Room.workplace around directory).output.put path text) }
  deliver
  now := inside (Room.workplace around directory).now
  turns

/-- A world and an office with the same room, whose journal was told what the world was. -/
structure Beside (namesInput : Bool) (world : World σ) (office : Office σ) : Prop where
  room : world.room = office.room
  told : office.journal.Told namesInput world.told

theorem inside_agree (namesInput : Bool) (action : StateM (Room σ) α) :
    Agree (Beside namesInput) (World.inside action) (inside action) := by
  rintro world ⟨room, journal⟩ ⟨same, told⟩
  cases same
  exact ⟨rfl, rfl, told⟩

theorem workplace_agree (namesInput : Bool) (around : Surroundings σ) (directory : String)
    (turns : List Nat) : Workplace.Agree (Beside namesInput)
      (World.workplace around directory turns) (workplace around directory turns) where
  location := rfl
  fetch _ := inside_agree namesInput _
  path := rfl
  put _ _ := inside_agree namesInput _
  deliver input? events _ _ beside := ⟨rfl, beside.room, beside.told.recordIn input? events⟩
  now := inside_agree namesInput _
  turns := rfl

end Office
end QuestRecords
