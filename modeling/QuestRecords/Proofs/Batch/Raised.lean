import QuestRecords.Proofs.Batch.Office

namespace QuestRecords

/-- The errors and the warnings among events. -/
def raisedAmong (events : List Event) : List Event :=
  events.filter fun event => event.isError || event.isWarning

theorem raisedAmong_append (first last : List Event) :
    raisedAmong (first ++ last) = raisedAmong first ++ raisedAmong last := List.filter_append ..

def Attempt.failure? (attempt : Attempt) : Option Event :=
  match attempt.result with
  | .ok _ => none
  | .error failure => some failure.event

namespace Batch

theorem raisedAmong_endingMessage (attempt : Attempt) :
    raisedAmong [endingMessage attempt.result] = attempt.failure?.toList := by
  rw [Attempt.failure?]
  cases attempt.result with
  | ok done => rfl
  | error failure => cases failure <;> rfl

theorem raisedAmong_eventsOf (attempt : Attempt) :
    raisedAmong (eventsOf attempt) = raisedAmong attempt.events ++ attempt.failure?.toList := by
  rw [eventsOf, raisedAmong_append, raisedAmong_endingMessage]

theorem raisedAmong_extracting (className location : String) (source : Text) (told : List Event) :
    raisedAmong ((Attempt.extracting (Attempt.begun enteringMessage className location)
      enteringMessage location source told).enter enteringMessage .writing).events =
        raisedAmong told := by
  simp only [Progress.enter, Attempt.extracting, Attempt.begun, Progress.raise, raisedAmong_append]
  exact List.append_nil _

theorem raisedAmong_ofWritten (quest : ExtractedQuest) (progress : Progress)
    (written : Except PersistError String) :
    raisedAmong (Attempt.ofWritten quest progress written).events =
      raisedAmong progress.events := by
  cases written with
  | ok path => exact (raisedAmong_append ..).trans (List.append_nil _)
  | error error => rfl

end Batch

/-- What reading an answer raises. -/
def Fetched.raises (name : String) : Fetched → List Event
  | .source text => raisedAmong (ExtractedQuest.ofSource name text).events
  | _ => []

namespace Room

variable {σ : Type} (around : Surroundings σ) (directory : String)

/-- An attempt raises what reading its answer raises, and the error that it ends with. -/
theorem attempt_raises (name : String) (room : Room σ) :
    let attempt := ((Attempt.run Batch.enteringMessage (workplace around directory).fetcher
      (workplace around directory).output name).run room).1
    let fetched := ((around.answer (askedFor name)).run room.outside).1
    raisedAmong (Batch.eventsOf attempt) = fetched.raises name ++ attempt.failure?.toList := by
  intro attempt fetched
  rw [Batch.raisedAmong_eventsOf]
  congr 1
  obtain ⟨given, outside, answered⟩ : ∃ given outside,
      (around.answer (askedFor name)).run room.outside = pure (given, outside) := ⟨_, _, rfl⟩
  rw [show fetched = given from congrArg Prod.fst answered]
  have run : attempt = ((Attempt.run Batch.enteringMessage (workplace around directory).fetcher
    (workplace around directory).output name).run room).1 := rfl
  simp only [Attempt.run, StateT.run_bind] at run
  rw [askedFor] at answered
  rw [fetch_run around directory answered, pure_bind] at run
  rw [run]
  cases given with
  | failed error => rfl
  | brokeDown => rfl
  | source source =>
    simp only [StateT.run_bind]
    exact (Batch.raisedAmong_ofWritten ..).trans (Batch.raisedAmong_extracting ..)

end Room

namespace Journal

/-- The errors and warnings among the events of a quest, as they are written. -/
def collectedFrom (namesInput : Bool) (input : InputContext) (events : List Event) : List Event :=
  (raisedAmong events).map (prepared namesInput input)

theorem collectedFrom_append (namesInput : Bool) (input : InputContext) (first last : List Event) :
    collectedFrom namesInput input (first ++ last) =
      collectedFrom namesInput input first ++ collectedFrom namesInput input last := by
  rw [collectedFrom, raisedAmong_append, List.map_append]
  rfl

theorem raisedUnder_cons_some (namesInput : Bool) (name : String) (input : InputContext)
    (event : Event) (told : List (Option InputContext × Event)) :
    raisedUnder namesInput name ((some input, event) :: told) =
      (if input.name = name then collectedFrom namesInput input [event] else []) ++
        raisedUnder namesInput name told := by
  by_cases worse : (event.isError || event.isWarning) = true
  · have entry : collected? namesInput (some input, event) = some _ := if_pos worse
    have passed : collectedFrom namesInput input [event] = [prepared namesInput input event] := by
      simp only [collectedFrom, raisedAmong, List.filter_cons, worse, if_true, List.filter_nil,
        List.map_cons, List.map_nil]
    rw [raisedUnder, collectedOf, List.filterMap_cons_some entry, Collector.recordedFor_cons, passed]
    split <;> rfl
  · have nothing : collected? namesInput (some input, event) = none := if_neg worse
    have dropped : collectedFrom namesInput input [event] = [] := by
      simp only [collectedFrom, raisedAmong, List.filter_cons, worse, Bool.false_eq_true, if_false,
        List.filter_nil, List.map_nil]
    rw [raisedUnder, collectedOf, List.filterMap_cons_none nothing, dropped, ite_self]
    rfl

theorem raisedUnder_unattributed (namesInput : Bool) (name : String) (events : List Event) :
    raisedUnder namesInput name (events.map (none, ·)) = [] := by
  induction events with
  | nil => rfl
  | cons event events ih => exact ih

/-- What was raised under a name that is the name of one quest only. -/
theorem raisedUnder_eq (namesInput : Bool) {input : InputContext}
    {told : List (Option InputContext × Event)} (sole : ∀ entry ∈ told, ∀ other,
      entry.1 = some other → other.name = input.name → other = input) :
    raisedUnder namesInput input.name told =
      collectedFrom namesInput input (eventsFor input told) := by
  induction told with
  | nil => rfl
  | cons entry told ih =>
    obtain ⟨input?, event⟩ := entry
    have later := ih fun entry member => sole entry (List.mem_cons_of_mem _ member)
    cases input? with
    | none => exact later
    | some other =>
      have apart := sole _ List.mem_cons_self other rfl
      rw [raisedUnder_cons_some, later]
      rw [← List.singleton_append (x := (some other, event)), eventsFor_append, eventsFor_single,
        collectedFrom_append]
      by_cases same : other = input
      · rw [if_pos same, if_pos (congrArg InputContext.name same), same]
      · rw [if_neg same, if_neg (mt apart same)]
        rfl

theorem raisedUnder_eq_nil (namesInput : Bool) {name : String}
    {told : List (Option InputContext × Event)}
    (absent : ∀ entry ∈ told, ∀ other, entry.1 = some other → other.name ≠ name) :
    raisedUnder namesInput name told = [] := by
  induction told with
  | nil => rfl
  | cons entry told ih =>
    obtain ⟨input?, event⟩ := entry
    have later := ih fun entry member => absent entry (List.mem_cons_of_mem _ member)
    cases input? with
    | none => exact later
    | some other =>
      rw [raisedUnder_cons_some, later, if_neg (absent _ List.mem_cons_self other rfl)]
      rfl

def tellAll (journal : Journal) (attempts : List (Outcome × List Event)) : Journal :=
  attempts.foldl (fun journal made => (journal.recordIn (some made.1.input) made.2).1) journal

theorem Told.tellAll {namesInput : Bool} {told : List (Option InputContext × Event)}
    {journal : Journal} (state : Told namesInput told journal)
    (attempts : List (Outcome × List Event)) :
    Told namesInput (told ++ toldInOrder attempts) (journal.tellAll attempts) := by
  induction attempts generalizing told journal with
  | nil => rwa [toldInOrder, List.flatMap_nil, List.append_nil]
  | cons made attempts ih =>
    have later := ih (state.recordIn (some made.1.input) made.2)
    rwa [List.append_assoc] at later

section

variable (namesInput : Bool) {attempts : List (Outcome × List Event)}

theorem exists_of_mem_toldInOrder {entry : Option InputContext × Event}
    (member : entry ∈ toldInOrder attempts) : ∃ made ∈ attempts, entry.1 = some made.1.input := by
  obtain ⟨made, listed, event⟩ := List.mem_flatMap.mp member
  obtain ⟨event, -, rfl⟩ := List.mem_map.mp event
  exact ⟨made, listed, rfl⟩

/-- What was raised under the name of an attempt, when no other has that name. -/
theorem raisedUnder_toldInOrder (distinct : (attempts.map fun made => made.1.name).Nodup)
    {made : Outcome × List Event} (member : made ∈ attempts) :
    raisedUnder namesInput made.1.name (toldInOrder attempts) =
      collectedFrom namesInput made.1.input made.2 := by
  have inputs : (attempts.map fun made => made.1.input).Nodup := by
    refine List.Nodup.of_map InputContext.name ?_
    rwa [List.map_map]
  have sole : ∀ entry ∈ toldInOrder attempts, ∀ other, entry.1 = some other →
      other.name = made.1.input.name → other = made.1.input := by
    intro entry told other input same
    obtain ⟨another, listed, attribution⟩ := exists_of_mem_toldInOrder told
    cases input.symm.trans attribution
    rw [List.inj_on_of_nodup_map distinct listed member same]
  rw [← eventsFor_toldInOrder inputs member]
  exact raisedUnder_eq namesInput sole

theorem raisedUnder_toldInOrder_eq_nil {name : String}
    (absent : name ∉ attempts.map fun made => made.1.name) :
    raisedUnder namesInput name (toldInOrder attempts) = [] := by
  refine raisedUnder_eq_nil namesInput fun entry told other input same => ?_
  obtain ⟨made, listed, attribution⟩ := exists_of_mem_toldInOrder told
  cases input.symm.trans attribution
  exact absent (List.mem_map.mpr ⟨made, listed, same⟩)

end

end Journal

end QuestRecords
