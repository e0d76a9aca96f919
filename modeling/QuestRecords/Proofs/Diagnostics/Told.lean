import QuestRecords.Diagnostics.Journal
import QuestRecords.Proofs.Diagnostics.Kept

namespace QuestRecords

theorem Event.prepared_level (journal : Journal) (event : Event) :
    (journal.prepare event).level = event.level ∧ (journal.prepare event).code = event.code := by
  have limited : event.limited.level = event.level ∧ event.limited.code = event.code := by
    rw [limited]
    split <;> exact ⟨rfl, rfl⟩
  rw [Journal.prepare]
  cases journal.input with
  | none => exact limited
  | some input =>
    dsimp only
    split <;> exact limited

namespace Journal

/-- An event as it is written for a quest. -/
def prepared (namesInput : Bool) (input : InputContext) (event : Event) : Event :=
  ({ namesInput, input := some input } : Journal).prepare event

/-- What is collected of an event, and under which name. -/
def collected? (namesInput : Bool) (entry : Option InputContext × Event) :
    Option (String × Event) :=
  match entry.1 with
  | some input =>
    if entry.2.isError || entry.2.isWarning then
      some (input.name, prepared namesInput input entry.2)
    else none
  | none => none

def collectedOf (namesInput : Bool) (told : List (Option InputContext × Event)) :
    List (String × Event) := told.filterMap (collected? namesInput)

theorem collectedOf_append (namesInput : Bool) (first last : List (Option InputContext × Event)) :
    collectedOf namesInput (first ++ last) =
      collectedOf namesInput first ++ collectedOf namesInput last := List.filterMap_append

theorem prepared_isError (namesInput : Bool) (input : InputContext) (event : Event) :
    (prepared namesInput input event).isError = event.isError := by
  rw [Event.isError, prepared, (Event.prepared_level _ event).1, Event.isError]

theorem prepared_isWarning (namesInput : Bool) (input : InputContext) (event : Event) :
    (prepared namesInput input event).isWarning = event.isWarning := by
  rw [Event.isWarning, prepared, (Event.prepared_level _ event).1, Event.isWarning]

theorem prepared_code (namesInput : Bool) (input : InputContext) (event : Event) :
    (prepared namesInput input event).code = event.code := (Event.prepared_level _ event).2

/-- The errors and the warnings that were told for quests of a name, as they are written. -/
def raisedUnder (namesInput : Bool) (name : String)
    (told : List (Option InputContext × Event)) : List Event :=
  Collector.recordedFor name (collectedOf namesInput told)

theorem raisedUnder_append (namesInput : Bool) (name : String)
    (first last : List (Option InputContext × Event)) :
    raisedUnder namesInput name (first ++ last) =
      raisedUnder namesInput name first ++ raisedUnder namesInput name last := by
  rw [raisedUnder, collectedOf_append, Collector.recordedFor_append]
  rfl

theorem length_le_of_raisedUnder {namesInput : Bool} {name : String}
    {told : List (Option InputContext × Event)} {before after : List Event}
    (raised : raisedUnder namesInput name told = before ++ after) : before.length ≤ told.length := by
  have whole := congrArg List.length raised
  rw [List.length_append] at whole
  have fewer : (raisedUnder namesInput name told).length ≤ told.length :=
    (List.length_filterMap_le _ _).trans (List.length_filterMap_le _ _)
  omega

theorem exists_raisedUnder (namesInput : Bool) {input : InputContext} {event : Event}
    (error : event.isError = true) {told : List (Option InputContext × Event)}
    (member : (some input, event) ∈ told) : ∃ before after,
      raisedUnder namesInput input.name told = before ++ prepared namesInput input event :: after := by
  obtain ⟨early, late, rfl⟩ := List.append_of_mem member
  have entry : collected? namesInput (some input, event) = some _ :=
    if_pos (Bool.or_eq_true_iff.mpr (.inl error))
  refine ⟨raisedUnder namesInput input.name early, raisedUnder namesInput input.name late, ?_⟩
  rw [raisedUnder_append]
  congr 1
  rw [raisedUnder, collectedOf, List.filterMap_cons_some entry, Collector.recordedFor_cons]
  exact if_pos rfl

/-- A journal is changed by an event in what it has collected, and in nothing else. -/
theorem record_eq (journal : Journal) (event : Event) : (journal.record event).1 = { journal with
    collector := journal.collector.recordAll
      (collectedOf journal.namesInput [(journal.input, event)]) } := by
  obtain ⟨threshold, namesInput, input?, collector⟩ := journal
  cases input? with
  | none => rfl
  | some input =>
    change collect ⟨threshold, namesInput, some input, collector⟩ (prepared namesInput input event) = _
    rw [collect]
    dsimp only
    rw [prepared_isError, prepared_isWarning]
    by_cases worse : (event.isError || event.isWarning) = true
    · have entry : collected? namesInput (some input, event) = some _ := if_pos worse
      rw [if_pos worse, collectedOf, List.filterMap_cons_some entry]
      rfl
    · have nothing : collected? namesInput (some input, event) = none := if_neg worse
      rw [if_neg worse, collectedOf, List.filterMap_cons_none nothing]
      rfl

theorem recordAll_eq (journal : Journal) (events : List Event) :
    (journal.recordAll events).1 = { journal with
      collector := journal.collector.recordAll
        (collectedOf journal.namesInput (events.map (journal.input, ·))) } := by
  induction events generalizing journal with
  | nil => rfl
  | cons event events ih =>
    rw [List.map_cons, ← List.singleton_append (l := events.map _), collectedOf_append,
      Collector.recordAll_append]
    calc (journal.recordAll (event :: events)).1 = ((journal.record event).1.recordAll events).1 := rfl
      _ = _ := by rw [record_eq, ih]

/-- A journal between two quests, which began empty and was told some events since. -/
structure Told (namesInput : Bool) (told : List (Option InputContext × Event))
    (journal : Journal) : Prop where
  idle : journal.input = none
  names : journal.namesInput = namesInput
  kept : journal.collector.events =
    (Collector.recordAll {} (collectedOf namesInput told)).events

theorem Told.start {journal : Journal} (idle : journal.input = none)
    (cleared : journal.collector.events = ∅) : Told journal.namesInput [] journal :=
  ⟨idle, rfl, cleared⟩

variable {namesInput : Bool} {told : List (Option InputContext × Event)} {journal : Journal}

/-- Entries collected behind the others were told behind the others. -/
theorem Told.collect (state : Told namesInput told journal)
    (fresh : List (Option InputContext × Event)) {collector : Collector}
    (kept : collector.events =
      (journal.collector.recordAll (collectedOf namesInput fresh)).events) :
    Told namesInput (told ++ fresh) { journal with collector } := by
  refine ⟨state.idle, state.names, ?_⟩
  rw [collectedOf_append, Collector.recordAll_append]
  exact kept.trans (Collector.recordAll_events state.kept _)

theorem Told.recordIn (state : Told namesInput told journal) (input? : Option InputContext)
    (events : List Event) :
    Told namesInput (told ++ events.map (input?, ·)) (journal.recordIn input? events).1 := by
  have collect {collector : Collector} (kept : collector.events = _) :=
    state.collect (events.map (input?, ·)) kept
  obtain ⟨threshold, named, current, collector⟩ := journal
  obtain ⟨idle, names, -⟩ := state
  cases idle
  cases names
  cases input? with
  | none =>
    rw [Journal.recordIn, recordAll_eq]
    exact collect rfl
  | some input =>
    change Told _ _ (Journal.recordAll (enter _ input) events).1.leave
    rw [recordAll_eq]
    have noted : (collector.noteInput input.name input.number).events = collector.events := rfl
    exact collect (Collector.recordAll_events noted _)

theorem Told.eventsOf (state : Told namesInput told journal) (name : String) :
    journal.collector.eventsOf name = Collector.cut (raisedUnder namesInput name told) := by
  rw [raisedUnder, ← Collector.eventsOf_recordAll ∅, Collector.eventsOf, state.kept]
  rfl

theorem Told.ascending (state : Told namesInput told journal) :
    journal.collector.events.Ascending :=
  state.kept ▸ Collector.ascending_recordAll .empty _

end Journal
end QuestRecords
