import Std.Data.HashMap.Lemmas
import QuestRecords.Proofs.Quest.BindingOrder
import QuestRecords.Quest.Step

/-! Steps kept in two parts: a map that finds a step by its name, and the names in the order in which
they were added. Both parts are changed by every step that is added, and they are read together: the
steps in order are those that the map has for the names. They stay in agreement, and what they hold
together is what the one list of a table holds. -/
namespace QuestRecords

/-- Steps by name, and their names in order. -/
structure StepIndex where
  records : Std.HashMap String Step := ∅
  order : List String := []

namespace StepIndex

/-- Adds a step unless its name is known; whether it was added. -/
def insertFirst (index : StepIndex) (step : Step) : StepIndex × Bool :=
  if index.records.contains step.name then (index, false)
  else
    ({ order := index.order ++ [step.name], records := index.records.insert step.name step }, true)

def size (index : StepIndex) : Nat := index.order.length

/-- The steps that the map has for the names in order; a name without a step would be left out. -/
def toList (index : StepIndex) : List Step := index.order.filterMap fun name => index.records[name]?

def ofList (steps : List Step) : StepIndex :=
  steps.foldl (fun index step => (index.insertFirst step).1) {}

theorem ofList_concat (steps : List Step) (step : Step) :
    ofList (steps ++ [step]) = ((ofList steps).insertFirst step).1 :=
  List.foldl_concat ..

/-- The two parts are in step: every name stands once and has a step of that name, and no other name
has one. -/
structure InStep (index : StepIndex) : Prop where
  distinct : index.order.Nodup
  known : ∀ name, name ∈ index.order ↔ name ∈ index.records
  named : ∀ name (step : Step), index.records[name]? = some step → step.name = name

section

variable {index : StepIndex} {step : Step}

theorem insertFirst_of_mem (met : step.name ∈ index.records) :
    index.insertFirst step = (index, false) :=
  if_pos met

theorem insertFirst_of_notMem (fresh : step.name ∉ index.records) :
    index.insertFirst step = ({ order := index.order ++ [step.name]
                                records := index.records.insert step.name step }, true) :=
  if_neg fresh

theorem exists_record {name : String} (known : name ∈ index.records) :
    ∃ step : Step, index.records[name]? = some step :=
  Option.isSome_iff_exists.mp (Std.HashMap.mem_iff_isSome_getElem?.mp known)

theorem InStep.empty : InStep {} :=
  ⟨List.nodup_nil, by simp, by simp⟩

theorem InStep.insertFirst (state : InStep index) (step : Step) :
    InStep (index.insertFirst step).1 := by
  by_cases met : step.name ∈ index.records
  · rw [insertFirst_of_mem met]
    exact state
  · rw [insertFirst_of_notMem met]
    refine ⟨?_, fun name => ?_, fun name found lookup => ?_⟩
    · rw [← List.concat_eq_append, List.nodup_concat]
      exact ⟨mt (state.known step.name).mp met, state.distinct⟩
    · rw [List.mem_append, List.mem_singleton, Std.HashMap.mem_insert, state.known, beq_iff_eq,
        or_comm, eq_comm]
    · rw [Std.HashMap.getElem?_insert] at lookup
      split at lookup
      · rename_i same
        cases lookup
        exact eq_of_beq same
      · exact state.named name found lookup

theorem InStep.ofList (steps : List Step) : InStep (ofList steps) := by
  induction steps using List.reverseRecOn with
  | nil => exact .empty
  | append_singleton steps step ih =>
    rw [ofList_concat]
    exact ih.insertFirst step

/-- While the parts are in step, reading them leaves no name out. -/
theorem InStep.map_name_toList (state : InStep index) :
    index.toList.map Step.name = index.order := by
  rw [toList, List.map_filterMap]
  have read : ∀ name ∈ index.order, (index.records[name]?).map Step.name = some name := by
    intro name listed
    obtain ⟨step, found⟩ := exists_record ((state.known name).mp listed)
    rw [found, Option.map_some, state.named name step found]
  rw [List.filterMap_congr read, List.filterMap_some]

theorem InStep.length_toList (state : InStep index) : index.toList.length = index.size := by
  rw [size, ← state.map_name_toList, List.length_map]

end

theorem order_ofList (steps : List Step) :
    (ofList steps).order = (steps.map Step.name).eraseDups := by
  induction steps using List.reverseRecOn with
  | nil => rfl
  | append_singleton steps step ih =>
    have known := (InStep.ofList steps).known step.name
    rw [ofList_concat, List.map_append, List.map_singleton]
    by_cases met : step.name ∈ (ofList steps).records
    · have before : step.name ∈ steps.map Step.name := by
        rw [← List.mem_eraseDups, ← ih, known]
        exact met
      rw [insertFirst_of_mem met, eraseDups_concat_of_mem before, ih]
    · have fresh : step.name ∉ steps.map Step.name := by
        rw [← List.mem_eraseDups, ← ih, known]
        exact met
      rw [insertFirst_of_notMem met, eraseDups_concat_of_notMem fresh, ih]

theorem mem_records_ofList {steps : List Step} {name : String} :
    name ∈ (ofList steps).records ↔ name ∈ steps.map Step.name := by
  rw [← (InStep.ofList steps).known, order_ofList, List.mem_eraseDups]

theorem records_ofList (steps : List Step) (name : String) :
    (ofList steps).records[name]? = steps.find? (·.name == name) := by
  induction steps using List.reverseRecOn with
  | nil => simp [ofList]
  | append_singleton steps step ih =>
    rw [ofList_concat, List.find?_append, ← ih]
    by_cases met : step.name ∈ (ofList steps).records
    · rw [insertFirst_of_mem met]
      by_cases same : step.name = name
      · obtain ⟨first, found⟩ := exists_record met
        rw [← same, found, Option.some_or]
      · simp [same]
    · rw [insertFirst_of_notMem met, Std.HashMap.getElem?_insert]
      by_cases same : step.name = name
      · subst same
        simp [Std.HashMap.getElem?_eq_none met]
      · simp [same]

theorem toList_ofList (steps : List Step) : (ofList steps).toList =
    (steps.map Step.name).eraseDups.filterMap fun name => steps.find? (·.name == name) := by
  rw [toList, order_ofList]
  exact List.filterMap_congr fun name _ => records_ofList steps name

theorem added_ofList_iff {steps : List Step} {step : Step} :
    ((ofList steps).insertFirst step).2 = true ↔ step.name ∉ steps.map Step.name := by
  rw [← mem_records_ofList]
  by_cases met : step.name ∈ (ofList steps).records
  · simp [insertFirst_of_mem met, met]
  · simp [insertFirst_of_notMem met, met]

theorem insertFirst_of_not_added {index : StepIndex} {step : Step}
    (kept : (index.insertFirst step).2 = false) : (index.insertFirst step).1 = index := by
  by_cases met : step.name ∈ index.records
  · rw [insertFirst_of_mem met]
  · rw [insertFirst_of_notMem met] at kept
    cases kept

end StepIndex

theorem Bindings.filterMap_names {Value : Type} {bindings : Bindings Value}
    (distinct : bindings.names.Nodup) :
    bindings.names.filterMap bindings.get? = bindings.toList := by
  rw [names, List.filterMap_map, toList, ← List.filterMap_eq_map]
  refine List.filterMap_congr fun entry member => ?_
  exact (lookup_eq_some_iff_mem distinct).mpr member

namespace StepTable

theorem lookup_map_name (steps : List Step) (name : String) :
    (steps.map fun step => (step.name, step)).lookup name = steps.find? (·.name == name) := by
  induction steps with
  | nil => rfl
  | cons step steps ih =>
    rw [List.map_cons, lookup_cons_eq_ite, ih, List.find?_cons]
    by_cases same : name = step.name
    · simp [same]
    · have apart : (step.name == name) = false := by simpa using Ne.symm same
      rw [if_neg same, apart]

theorem foldl_insertFirst (steps : List Step) : steps.foldl insertFirst ∅ =
    Bindings.ofList (steps.map fun step => (step.name, step)) := by
  rw [Bindings.ofList, List.foldl_map]
  rfl

end StepTable

namespace StepIndex

/-- An index and a table that hold the same steps. -/
structure Agrees (index : StepIndex) (table : StepTable) : Prop where
  names : index.order = table.names
  records : ∀ name, index.records[name]? = table.get? name

theorem Agrees.ofList (steps : List Step) :
    Agrees (ofList steps) (steps.foldl StepTable.insertFirst ∅) := by
  rw [StepTable.foldl_insertFirst]
  constructor
  · rw [order_ofList, Bindings.names_ofList, List.map_map]
    rfl
  · intro name
    rw [records_ofList, Bindings.get?_ofList, StepTable.lookup_map_name]

theorem Agrees.toList {index : StepIndex} {table : StepTable} (agrees : Agrees index table)
    (state : InStep index) : index.toList = table.toList := by
  have distinct : table.names.Nodup := agrees.names ▸ state.distinct
  rw [StepIndex.toList, agrees.names, ← Bindings.filterMap_names distinct]
  exact List.filterMap_congr fun name _ => agrees.records name

theorem Agrees.size {index : StepIndex} {table : StepTable} (agrees : Agrees index table) :
    index.size = table.size := by
  rw [StepIndex.size, agrees.names, Bindings.names, List.length_map, Bindings.size]

theorem Agrees.added {index : StepIndex} {table : StepTable} (agrees : Agrees index table)
    (step : Step) : (index.insertFirst step).2 = table.accepts step := by
  have known : index.records.contains step.name = table.isBound step.name := by
    rw [Std.HashMap.contains_eq_isSome_getElem?, agrees.records, Bindings.isBound]
  rw [insertFirst, known, StepTable.accepts]
  cases table.isBound step.name <;> rfl

/-- Whatever steps are added, the names in order are different and are those that the map has, and
every step stands under its own name. Read together the parts give the first step of every name, in
the order in which the names came, and none is left out. A step is added exactly when its name is
new, and otherwise nothing is changed. All of it is as in a table of one list. -/
theorem parts_in_step (steps : List Step) :
    let index := ofList steps
    let table := steps.foldl StepTable.insertFirst ∅
    (index.order.Nodup ∧ ∀ name, name ∈ index.order ↔ name ∈ index.records) ∧
    (∀ name (step : Step), index.records[name]? = some step → step.name = name) ∧
    (index.toList = (steps.map Step.name).eraseDups.filterMap
      (fun name => steps.find? (·.name == name)) ∧
      index.toList.map Step.name = (steps.map Step.name).eraseDups ∧
      index.toList.length = index.size) ∧
    (∀ step, ((index.insertFirst step).2 = true ↔ step.name ∉ steps.map Step.name) ∧
      ((index.insertFirst step).2 = false → (index.insertFirst step).1 = index)) ∧
    index.order = table.names ∧ (∀ name, index.records[name]? = table.get? name) ∧
    index.toList = table.toList ∧ index.size = table.size ∧
    ∀ step, (index.insertFirst step).2 = table.accepts step := by
  intro index table
  have state : InStep index := .ofList steps
  have agrees : Agrees index table := .ofList steps
  refine ⟨⟨state.distinct, state.known⟩, state.named, ⟨toList_ofList steps, ?_, ?_⟩, ?_,
    agrees.names, agrees.records, agrees.toList state, agrees.size, agrees.added⟩
  · rw [state.map_name_toList, order_ofList]
  · exact state.length_toList
  · exact fun step => ⟨added_ofList_iff, insertFirst_of_not_added⟩

def repeated : List Step :=
  [⟨"talk", "Talk.", ⟨1, 2, 0⟩⟩, ⟨"dig", "Dig.", ⟨3, 4, 0⟩⟩, ⟨"talk", "Talk again.", ⟨5, 6, 0⟩⟩]

theorem parts_in_step_repeated :
    (ofList repeated).toList = repeated.take 2 ∧ (ofList repeated).size = 2 ∧
    ((ofList repeated).insertFirst ⟨"dig", "Dig deeper.", ⟨7, 8, 0⟩⟩).1 = ofList repeated ∧
    ((ofList repeated).insertFirst ⟨"wait", "Wait.", ⟨7, 8, 0⟩⟩).2 = true := by
  obtain ⟨-, -, ⟨read, -, -⟩, added, -, -, -, size, same⟩ := parts_in_step repeated
  exact ⟨read.trans (by decide), size.trans (by decide), (added _).2 ((same _).trans (by decide)),
    (added _).1.mpr (by decide)⟩

end StepIndex
end QuestRecords
