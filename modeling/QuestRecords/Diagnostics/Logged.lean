import QuestRecords.Diagnostics.Event

/-! Values together with the events that were raised on the way to them. -/
namespace QuestRecords

/-- A value, and the events raised while it was computed, in order. -/
structure Logged (α : Type) where
  value : α
  events : List Event

namespace Logged

def bind (first : Logged α) (next : α → Logged β) : Logged β :=
  let second := next first.value
  ⟨second.value, first.events ++ second.events⟩

instance : Monad Logged where
  pure value := ⟨value, []⟩
  bind := Logged.bind

/-- Raises an event. -/
def raise (event : Event) : Logged Unit := ⟨(), [event]⟩

/-- Raises several events in order. -/
def raiseAll (events : List Event) : Logged Unit := ⟨(), events⟩

@[simp] theorem value_pure (value : α) : (pure value : Logged α).value = value := rfl

@[simp] theorem events_pure (value : α) : (pure value : Logged α).events = [] := rfl

@[simp] theorem value_bind (first : Logged α) (next : α → Logged β) :
    (first >>= next).value = (next first.value).value := rfl

@[simp] theorem events_bind (first : Logged α) (next : α → Logged β) :
    (first >>= next).events = first.events ++ (next first.value).events := rfl

@[simp] theorem events_raise (event : Event) : (raise event).events = [event] := rfl

instance : LawfulMonad Logged :=
  LawfulMonad.mk' _ (fun _ => by simp [Functor.map, Logged.bind])
    (fun _ _ => by simp [Bind.bind, Pure.pure, Logged.bind])
    (fun _ _ _ => by simp [Bind.bind, Logged.bind])

end Logged
end QuestRecords
