import QuestRecords.Diagnostics.Collector
import Mathlib.Data.List.Sort

namespace QuestRecords

namespace SortedTable

variable {Value : Type}

/-- The keys of a table stand in ascending order. -/
def Ascending (table : SortedTable Value) : Prop := table.entries.Pairwise (·.1 < ·.1)

theorem Ascending.empty : Ascending (∅ : SortedTable Value) := List.Pairwise.nil

theorem mem_alterEntries {key : String} {change : Option Value → Value}
    {entries : List (String × Value)} {entry : String × Value}
    (member : entry ∈ alterEntries key change entries) : entry.1 = key ∨ entry ∈ entries := by
  induction entries with
  | nil => exact .inl (congrArg Prod.fst (List.mem_singleton.mp member))
  | cons first rest ih =>
    obtain ⟨name, value⟩ := first
    rw [alterEntries] at member
    split at member
    · rename_i same
      rcases List.mem_cons.mp member with rfl | later
      · exact .inl rfl
      · exact .inr (List.mem_cons_of_mem _ later)
    · split at member
      · rcases List.mem_cons.mp member with rfl | later
        · exact .inl rfl
        · exact .inr later
      · rcases List.mem_cons.mp member with rfl | later
        · exact .inr List.mem_cons_self
        · exact (ih later).imp_right (List.mem_cons_of_mem _)

theorem Ascending.alter {table : SortedTable Value} (ascending : Ascending table) (key : String)
    (change : Option Value → Value) : Ascending (table.alter key change) := by
  obtain ⟨entries⟩ := table
  simp only [Ascending, SortedTable.alter] at *
  induction entries with
  | nil => exact List.pairwise_singleton ..
  | cons first rest ih =>
    obtain ⟨name, value⟩ := first
    obtain ⟨above, later⟩ := List.pairwise_cons.mp ascending
    rw [alterEntries]
    split
    · rename_i same
      subst same
      exact List.pairwise_cons.mpr ⟨above, later⟩
    · rename_i other
      split
      · rename_i before
        refine List.pairwise_cons.mpr ⟨?_, ascending⟩
        intro entry member
        rcases List.mem_cons.mp member with rfl | behind
        · exact before
        · exact String.lt_trans before (above entry behind)
      · rename_i behind
        refine List.pairwise_cons.mpr ⟨fun entry member => ?_, ih later⟩
        rcases mem_alterEntries member with same | earlier
        · have below : name ≤ key := String.not_lt.mp behind
          rw [same]
          exact Std.lt_of_le_of_ne below (Ne.symm other)
        · exact above entry earlier

theorem Ascending.mem_iff {table : SortedTable Value} (ascending : Ascending table)
    (entry : String × Value) : entry ∈ table.entries ↔ table.get? entry.1 = some entry.2 := by
  obtain ⟨entries⟩ := table
  simp only [Ascending, get?] at *
  induction entries with
  | nil => simp
  | cons first rest ih =>
    obtain ⟨name, value⟩ := first
    obtain ⟨above, later⟩ := List.pairwise_cons.mp ascending
    rw [List.mem_cons, ih later, List.lookup_cons]
    by_cases same : entry.1 = name
    · have absent : rest.lookup name = none := by
        refine List.lookup_eq_none_iff.mpr fun other member => ?_
        simpa using String.ne_of_lt (above other member)
      rw [same, beq_self_eq_true, absent]
      simp [Prod.ext_iff, same, eq_comm]
    · have passed : (entry.1 == name) = false := by simpa using same
      rw [passed]
      simp [Prod.ext_iff, same]

theorem Ascending.ext {first last : SortedTable Value} (ascending : Ascending first)
    (other : Ascending last) (same : ∀ key, first.get? key = last.get? key) : first = last := by
  have members (entry : String × Value) : entry ∈ first.entries ↔ entry ∈ last.entries := by
    rw [ascending.mem_iff, other.mem_iff, same]
  have irreflexive : Std.Irrefl fun first last : String × Value => first.1 < last.1 :=
    ⟨fun entry => String.lt_irrefl entry.1⟩
  have antisymmetric : Std.Antisymm fun first last : String × Value => first.1 < last.1 :=
    ⟨fun first last before behind => absurd behind (String.lt_asymm before)⟩
  exact congrArg SortedTable.mk (List.Pairwise.eq_of_mem_iff ascending other members)

end SortedTable

namespace Collector

def recordedFor (name : String) (entries : List (String × Event)) : List Event :=
  entries.filterMap fun entry => if entry.1 = name then some entry.2 else none

theorem recordedFor_cons (name : String) (entry : String × Event) (entries : List (String × Event)) :
    recordedFor name (entry :: entries) =
      if entry.1 = name then entry.2 :: recordedFor name entries else recordedFor name entries := by
  by_cases same : entry.1 = name <;> simp [recordedFor, same]

theorem recordedFor_append (name : String) (first last : List (String × Event)) :
    recordedFor name (first ++ last) = recordedFor name first ++ recordedFor name last :=
  List.filterMap_append

theorem mem_recordedFor_iff {name : String} {event : Event} {entries : List (String × Event)} :
    event ∈ recordedFor name entries ↔ (name, event) ∈ entries := by
  simp [recordedFor, List.mem_filterMap]

/-- Records events, each under a name. -/
def recordAll (collector : Collector) (entries : List (String × Event)) : Collector :=
  entries.foldl (fun collector entry => collector.record entry.1 entry.2) collector

theorem recordAll_append (collector : Collector) (first last : List (String × Event)) :
    collector.recordAll (first ++ last) = (collector.recordAll first).recordAll last :=
  List.foldl_append

theorem recordAll_events {collector other : Collector} (same : collector.events = other.events)
    (entries : List (String × Event)) :
    (collector.recordAll entries).events = (other.recordAll entries).events := by
  induction entries generalizing collector other with
  | nil => exact same
  | cons entry entries ih =>
    exact ih (congrArg (fun table : SortedTable (List Event) => table.alter entry.1
      fun kept => keep (kept.getD []) entry.2) same)

/-- Events cut at the limit, with the warning that stands for the others. -/
def cut (events : List Event) : List Event :=
  if events.length ≤ eventLimit then events else events.take eventLimit ++ [limitWarning]

theorem keep_cut (events : List Event) (event : Event) :
    keep (cut events) event = cut (events ++ [event]) := by
  rw [cut, cut, List.length_append, List.length_singleton]
  rcases Nat.lt_trichotomy events.length eventLimit with below | full | above
  · rw [if_pos below.le, keep, if_pos below, if_pos (Nat.succ_le_of_lt below)]
  · rw [if_pos full.le, if_neg (by omega), keep, if_neg (by omega), if_pos full,
      List.take_append_of_le_length full.ge, List.take_of_length_le full.le]
  · have length : (events.take eventLimit ++ [limitWarning]).length = eventLimit + 1 := by
      rw [List.length_append, List.length_take, List.length_singleton, Nat.min_eq_left above.le]
    rw [if_neg (by omega), if_neg (by omega), keep, if_neg (by omega), if_neg (by omega),
      List.take_append_of_le_length above.le]

/-- Events kept one after the other are those events, cut at the limit. -/
theorem foldl_keep (before events : List Event) :
    events.foldl keep (cut before) = cut (before ++ events) := by
  induction events generalizing before with
  | nil => rw [List.append_nil, List.foldl_nil]
  | cons event events ih =>
    rw [List.foldl_cons, keep_cut, ih, List.append_assoc, List.singleton_append]

theorem mem_or_eq_of_mem_cut {event : Event} {events : List Event} (kept : event ∈ cut events) :
    event ∈ events ∨ event = limitWarning := by
  rw [cut] at kept
  split at kept
  · exact .inl kept
  · rcases List.mem_append.mp kept with early | last
    · exact .inl (List.mem_of_mem_take early)
    · exact .inr (List.mem_singleton.mp last)

theorem mem_cut {before : List Event} (early : before.length < eventLimit) (event : Event)
    (behind : List Event) : event ∈ cut (before ++ event :: behind) := by
  have member : event ∈ before ++ event :: behind :=
    List.mem_append_right before List.mem_cons_self
  rw [cut]
  split
  · exact member
  · refine List.mem_append_left _ ?_
    rw [List.take_append, List.mem_append]
    obtain ⟨more, same⟩ := Nat.exists_eq_add_of_lt early
    rw [same, show before.length + more + 1 - before.length = more + 1 by omega]
    exact .inr List.mem_cons_self

theorem cut_of_full {before : List Event} (full : eventLimit ≤ before.length) (event : Event)
    (behind : List Event) :
    cut (before ++ event :: behind) = before.take eventLimit ++ [limitWarning] := by
  have long : ¬ (before ++ event :: behind).length ≤ eventLimit := by
    rw [List.length_append, List.length_cons]
    omega
  rw [cut, if_neg long, List.take_append_of_le_length full]

theorem ascending_recordAll {collector : Collector} (ascending : collector.events.Ascending)
    (entries : List (String × Event)) : (collector.recordAll entries).events.Ascending := by
  induction entries generalizing collector with
  | nil => exact ascending
  | cons entry entries ih => exact ih (ascending.alter _ _)

theorem get?_recordAll {collector : Collector} (ascending : collector.events.Ascending)
    (entries : List (String × Event)) (name : String) :
    (collector.recordAll entries).events.get? name =
      if recordedFor name entries = [] then collector.events.get? name
      else some ((recordedFor name entries).foldl keep (collector.eventsOf name)) := by
  induction entries generalizing collector with
  | nil => rfl
  | cons entry entries ih =>
    obtain ⟨other, event⟩ := entry
    have once := SortedTable.get?_alter collector.events other name
      (fun kept => keep (kept.getD []) event) ascending
    rw [show collector.recordAll ((other, event) :: entries) =
      (collector.record other event).recordAll entries from rfl, ih (ascending.alter _ _),
      recordedFor_cons, eventsOf, show (collector.record other event).events.get? name = _ from once]
    by_cases same : other = name
    · subst same
      rw [if_pos rfl, if_pos rfl, if_neg (List.cons_ne_nil _ _), List.foldl_cons]
      split
      · rename_i none
        rw [none]
        rfl
      · rfl
    · rw [if_neg (Ne.symm same), if_neg same]
      rfl

/-- What is kept under a name, of all that was recorded since nothing was kept. -/
theorem eventsOf_recordAll (inputs : SortedTable Nat) (entries : List (String × Event))
    (name : String) :
    (recordAll { inputs } entries).eventsOf name = cut (recordedFor name entries) := by
  rw [eventsOf, get?_recordAll SortedTable.Ascending.empty]
  split
  · rename_i none
    rw [none]
    rfl
  · exact foldl_keep [] _

/-- Collectors that were told the same for every name keep the same. -/
theorem recordAll_congr {inputs inputs' : SortedTable Nat} {entries entries' : List (String × Event)}
    (same : ∀ name, recordedFor name entries = recordedFor name entries') :
    (recordAll { inputs } entries).events = (recordAll { inputs := inputs' } entries').events := by
  refine SortedTable.Ascending.ext (ascending_recordAll .empty _) (ascending_recordAll .empty _) ?_
  intro name
  rw [get?_recordAll .empty, get?_recordAll .empty, same]
  rfl

/-- The report is made from the events kept. -/
theorem report_congr {collector other : Collector} (same : collector.events = other.events) :
    collector.report = other.report := by
  cases collector
  cases other
  cases same
  rfl

theorem le_total {value : α} {values : List α} (member : value ∈ values) (count : α → Nat) :
    count value ≤ total count values := by
  obtain ⟨before, behind, rfl⟩ := List.append_of_mem member
  rw [total_append, total_cons]
  omega

end Collector
end QuestRecords
