import QuestRecords.Diagnostics.Event

/-! A window on the latest events, and a recorder that shows it only the events of its threshold. -/
namespace QuestRecords

/-- The latest events, oldest first, as many as there is room for. -/
structure EventWindow where
  capacity : Nat
  events : Array Event := #[]

namespace EventWindow

/-- How many events a window holds if nothing else is said. -/
def usualCapacity : Nat := 10000

/-- The events that stay when place is made for one more. While there is room all of them stay,
and then the oldest go, but no more of them can go than there are. -/
def makePlace? (window : EventWindow) : Option (Array Event) :=
  if window.events.size < window.capacity then some window.events
  else
    let surplus := window.events.size - window.capacity + 1
    if surplus ≤ window.events.size then
      some (window.events.extract surplus window.events.size)
    else none

/-- Adds an event; when there is no room left, the oldest make place for it. A window in which no
place can be made stays as it is. -/
def push (window : EventWindow) (event : Event) : EventWindow :=
  match window.makePlace? with
  | some stayed => { window with events := stayed.push event }
  | none => window

@[simp] theorem capacity_push (window : EventWindow) (event : Event) :
    (window.push event).capacity = window.capacity := by
  rw [push]
  split <;> rfl

def toList (window : EventWindow) : List Event := window.events.toList

def clear (window : EventWindow) : EventWindow := { window with events := #[] }

def errors (window : EventWindow) : List Event := window.toList.filter Event.isError

def hasError (window : EventWindow) (code : Code) : Bool :=
  window.events.any fun event => event.isError && event.code = code

def hasSuccess (window : EventWindow) (code : Code) : Bool :=
  window.events.any fun event => event.level == .info && event.code = code

end EventWindow

/-- A window behind a threshold. -/
structure Recorder where
  threshold : Level
  window : EventWindow

namespace Recorder

def log (recorder : Recorder) (event : Event) : Recorder :=
  if event.level.passes recorder.threshold then
    { recorder with window := recorder.window.push event }
  else recorder

@[simp] theorem threshold_log (recorder : Recorder) (event : Event) :
    (recorder.log event).threshold = recorder.threshold := by
  rw [log]
  split <;> rfl

@[simp] theorem capacity_log (recorder : Recorder) (event : Event) :
    (recorder.log event).window.capacity = recorder.window.capacity := by
  rw [log]
  split
  · exact EventWindow.capacity_push ..
  · rfl

end Recorder
end QuestRecords
