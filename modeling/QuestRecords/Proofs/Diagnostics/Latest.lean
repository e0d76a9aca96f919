import QuestRecords.Diagnostics.Window
import Mathlib.Data.List.DropRight

/-! What a recorder shows after any number of events: the latest of those that pass its threshold,
in order, as many as its window has room for. -/
namespace QuestRecords

section Rtake

variable {α : Type} {count : Nat}

theorem rtake_of_length_le {items : List α} (few : items.length ≤ count) :
    items.rtake count = items := by
  rw [List.rtake, Nat.sub_eq_zero_of_le few, List.drop_zero]

theorem length_rtake_le (count : Nat) (items : List α) : (items.rtake count).length ≤ count := by
  rw [List.rtake, List.length_drop]
  omega

/-- What is cut off in front may be cut off before the list grows at its end. -/
theorem rtake_rtake_append (count : Nat) (first last : List α) :
    (first.rtake count ++ last).rtake count = (first ++ last).rtake count := by
  simp only [List.rtake_eq_reverse_take_reverse, List.reverse_append, List.reverse_reverse,
    List.take_append, List.take_take, List.length_reverse]
  rw [Nat.min_eq_left (Nat.sub_le count last.length)]

theorem rtake_min_length (count : Nat) (items : List α) :
    items.rtake (min items.length count) = items.rtake count := by
  rw [List.rtake, List.rtake]
  congr 1
  omega

end Rtake

namespace EventWindow

variable {window : EventWindow}

def Fits (window : EventWindow) : Prop := window.toList.length ≤ window.capacity

theorem toList_extract_size (events : Array Event) (start : Nat) :
    (events.extract start events.size).toList = events.toList.drop start := by
  rw [Array.toList_extract, List.extract_eq_take_drop]
  exact List.take_of_length_le (by rw [List.length_drop, Array.length_toList])

/-- In a window with room for any event, place for one more is made by leaving only the latest. -/
theorem makePlace?_eq_some (room : 0 < window.capacity) : ∃ stayed,
    window.makePlace? = some stayed ∧ stayed.toList = window.toList.rtake (window.capacity - 1) := by
  have length : window.toList.length = window.events.size := Array.length_toList
  by_cases space : window.events.size < window.capacity
  · have few : window.toList.length ≤ window.capacity - 1 := by omega
    exact ⟨window.events, if_pos space, (rtake_of_length_le few).symm⟩
  · have enough : window.events.size - window.capacity + 1 ≤ window.events.size := by omega
    have surplus : window.toList.length - (window.capacity - 1) =
        window.events.size - window.capacity + 1 := by omega
    refine ⟨_, (if_neg space).trans (if_pos enough), ?_⟩
    rw [toList_extract_size, List.rtake, surplus]
    rfl

/-- Without any room, not even the place of the oldest event can be given away. -/
theorem makePlace?_eq_none (roomless : window.capacity = 0) : window.makePlace? = none := by
  rw [makePlace?, roomless, if_neg (Nat.not_lt_zero _), Nat.sub_zero]
  exact if_neg (Nat.not_succ_le_self _)

theorem isSome_makePlace?_iff : window.makePlace?.isSome ↔ 0 < window.capacity := by
  rcases Nat.eq_zero_or_pos window.capacity with roomless | room
  · simp [makePlace?_eq_none roomless, roomless]
  · obtain ⟨stayed, made, -⟩ := makePlace?_eq_some room
    simp [made, room]

/-- With an event added the window holds the latest of what it held and the event. -/
theorem toList_push (fits : window.Fits) (event : Event) :
    (window.push event).toList = (window.toList ++ [event]).rtake window.capacity := by
  rcases Nat.eq_zero_or_pos window.capacity with roomless | room
  · have held : window.toList = [] := List.length_eq_zero_iff.mp (Nat.le_zero.mp (roomless ▸ fits))
    rw [push, makePlace?_eq_none roomless, roomless, List.rtake_zero, held]
  · obtain ⟨stayed, made, latest⟩ := makePlace?_eq_some room
    have pushed : (window.push event).toList = stayed.toList ++ [event] := by
      rw [push, made]
      exact Array.toList_push
    rw [pushed, latest, ← List.rtake_concat_succ, Nat.sub_add_cancel room]

end EventWindow

namespace Recorder

variable {recorder : Recorder}

def logAll (recorder : Recorder) (events : List Event) : Recorder := events.foldl log recorder

@[simp] theorem capacity_logAll (recorder : Recorder) (events : List Event) :
    (recorder.logAll events).window.capacity = recorder.window.capacity := by
  induction events generalizing recorder with
  | nil => rfl
  | cons event rest ih => exact (ih (recorder.log event)).trans (capacity_log recorder event)

def passing (threshold : Level) (events : List Event) : List Event :=
  events.filter fun event => event.level.passes threshold

theorem passing_cons (threshold : Level) (event : Event) (rest : List Event) :
    passing threshold (event :: rest) = passing threshold [event] ++ passing threshold rest :=
  List.filter_append [event] rest

theorem toList_log (fits : recorder.window.Fits) (event : Event) :
    (recorder.log event).window.toList =
      (recorder.window.toList ++ passing recorder.threshold [event]).rtake
        recorder.window.capacity := by
  by_cases passes : event.level.passes recorder.threshold
  · have alone : passing recorder.threshold [event] = [event] := List.filter_cons_of_pos passes
    rw [log, if_pos passes, alone]
    exact EventWindow.toList_push fits event
  · have none : passing recorder.threshold [event] = [] := List.filter_cons_of_neg passes
    rw [log, if_neg passes, none, List.append_nil, rtake_of_length_le fits]

theorem fits_log (fits : recorder.window.Fits) (event : Event) :
    (recorder.log event).window.Fits := by
  rw [EventWindow.Fits, toList_log fits, capacity_log]
  exact length_rtake_le _ _

/-- The window moves along all events that pass: it shows the latest of what it showed before
and of these. -/
theorem toList_logAll (fits : recorder.window.Fits) (events : List Event) :
    (recorder.logAll events).window.toList =
      (recorder.window.toList ++ passing recorder.threshold events).rtake
        recorder.window.capacity := by
  induction events generalizing recorder with
  | nil =>
    rw [passing, List.filter_nil, List.append_nil, rtake_of_length_le fits]
    rfl
  | cons event rest ih =>
    have later := ih (fits_log fits event)
    rw [threshold_log, capacity_log, toList_log fits event, rtake_rtake_append,
      List.append_assoc, ← passing_cons] at later
    exact later

/-- A recorder shows the latest of the events that pass its threshold, in order and without gaps:
all of them, or as many as there is room for. On the way place can be made for every event, unless
there is no room for any. -/
theorem latest_shown (threshold : Level) (capacity : Nat) (events : List Event) :
    let passed := events.filter fun event => event.level.passes threshold
    let after (logged : List Event) := logAll { threshold, window := { capacity } } logged
    (after events).window.toList = passed.rtake (min passed.length capacity) ∧
      ((∀ logged, logged <+: events → (after logged).window.makePlace?.isSome) ↔ 0 < capacity) := by
  intro passed after
  have empty : EventWindow.Fits { capacity } := Nat.zero_le capacity
  constructor
  · rw [rtake_min_length]
    exact toList_logAll empty events
  · have room (logged : List Event) :
        (after logged).window.makePlace?.isSome ↔ 0 < capacity := by
      rw [EventWindow.isSome_makePlace?_iff, capacity_logAll]
    constructor
    · intro made
      exact (room []).mp (made [] List.nil_prefix)
    · intro positive logged _
      exact (room logged).mpr positive

example : ((logAll { threshold := .info, window := { capacity := 2 } }
    [.info "first", .info "second", .debug "hidden", .error .timeout "third"]).window.toList.map
      Event.message) = ["second", "third"] := rfl

end Recorder
end QuestRecords
