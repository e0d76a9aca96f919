import QuestRecords.Proofs.Quest.ReadableSteps

/-! Which assignment binds the name of a step. Of the assignments that can be read, the leftmost one
of the first kind that has one; what cannot be read binds nothing and hides nothing. -/
namespace QuestRecords

/-- A member before which none has the same key. -/
def IsFirst {α : Type} (key : α → String) (items : List α) (item : α) : Prop :=
  ∃ before after, items = before ++ item :: after ∧ ∀ other ∈ before, key other ≠ key item

section

variable {α : Type} {key : α → String} {items : List α} {first item : α}

theorem isFirst_cons_iff : IsFirst key (first :: items) item ↔
    item = first ∨ key first ≠ key item ∧ IsFirst key items item := by
  constructor
  · rintro ⟨before, after, split, fresh⟩
    cases before with
    | nil => exact .inl (List.cons.inj split).1.symm
    | cons other before =>
      obtain ⟨rfl, others⟩ := List.cons.inj split
      obtain ⟨apart, fresh⟩ := List.forall_mem_cons.mp fresh
      exact .inr ⟨apart, before, after, others, fresh⟩
  · rintro (rfl | ⟨apart, before, after, rfl, fresh⟩)
    · exact ⟨[], items, rfl, by simp⟩
    · exact ⟨first :: before, after, rfl, List.forall_mem_cons.mpr ⟨apart, fresh⟩⟩

/-- In a list of two parts, a member of the second part is first when none of the first part has its
key. -/
theorem isFirst_append_iff {left right : List α} : IsFirst key (left ++ right) item ↔
    IsFirst key left item ∨ IsFirst key right item ∧ ∀ other ∈ left, key other ≠ key item := by
  induction left with
  | nil => simp [IsFirst]
  | cons first left ih =>
    rw [List.cons_append, isFirst_cons_iff, isFirst_cons_iff, ih, List.forall_mem_cons]
    tauto

theorem IsFirst.mem (isFirst : IsFirst key items item) : item ∈ items := by
  obtain ⟨before, after, rfl, -⟩ := isFirst
  exact List.mem_append_right before List.mem_cons_self

theorem isFirst_iff_of_pairwise {place : α → Nat}
    (ordered : items.Pairwise fun earlier later => place earlier < place later) :
    IsFirst key items item ↔
      item ∈ items ∧ ∀ other ∈ items, key other = key item → place item ≤ place other := by
  constructor
  · intro isFirst
    refine ⟨isFirst.mem, ?_⟩
    obtain ⟨before, after, rfl, fresh⟩ := isFirst
    intro other member same
    rcases List.mem_append.mp member with early | late
    · exact absurd same (fresh other early)
    · rcases List.mem_cons.mp late with rfl | late
      · exact Nat.le_refl _
      · have beyond := (List.pairwise_append.mp ordered).2.1
        exact Nat.le_of_lt (List.rel_of_pairwise_cons beyond late)
  · rintro ⟨member, least⟩
    obtain ⟨before, after, rfl⟩ := List.append_of_mem member
    refine ⟨before, after, rfl, fun other early same => ?_⟩
    have across := (List.pairwise_append.mp ordered).2.2 other early item List.mem_cons_self
    exact absurd (least other (List.mem_append_left _ early) same) (Nat.not_le.mpr across)

theorem lookup_map_eq_some_iff {β : Type} {value : α → β} {name : String} {result : β} :
    (items.map fun item => (key item, value item)).lookup name = some result ↔
      ∃ item, IsFirst key items item ∧ key item = name ∧ value item = result := by
  rw [List.lookup_eq_some_iff]
  constructor
  · rintro ⟨before, after, split, fresh⟩
    obtain ⟨front, behind, rfl, rfl, here⟩ := List.map_eq_append_iff.mp split
    obtain ⟨item, rest, rfl, same, rfl⟩ := List.map_eq_cons_iff.mp here
    cases same
    refine ⟨item, ⟨front, rest, rfl, fun other member => ?_⟩, rfl, rfl⟩
    have apart := fresh _ (List.mem_map_of_mem member)
    exact Ne.symm (by simpa using apart)
  · rintro ⟨item, ⟨before, after, rfl, fresh⟩, rfl, rfl⟩
    refine ⟨_, _, List.map_append, fun pair member => ?_⟩
    obtain ⟨other, among, rfl⟩ := List.mem_map.mp member
    simpa using Ne.symm (fresh other among)

end

namespace StepTable

theorem isBound_insertFirst (table : StepTable) (step : Step) (name : String) :
    (table.insertFirst step).isBound name = (step.name == name || table.isBound name) := by
  rw [Bindings.isBound, insertFirst, Bindings.get?_insertFirst]
  by_cases same : name = step.name
  · simp [same]
  · simp [same, Ne.symm same, Bindings.isBound]

theorem entries_insertFirst {table : StepTable} {step : Step}
    (fresh : table.isBound step.name = false) :
    (table.insertFirst step).entries = table.entries ++ [(step.name, step)] := by
  simp [insertFirst, Bindings.insertFirst, fresh]

theorem insertFirst_of_isBound {table : StepTable} {step : Step}
    (bound : table.isBound step.name = true) : table.insertFirst step = table :=
  if_pos bound

theorem isBound_foldl (placed : List (Nat × Step)) (table : StepTable) (name : String) :
    ((placed.map (·.2)).foldl insertFirst table).isBound name = true ↔
      table.isBound name = true ∨ ∃ item ∈ placed, item.2.name = name := by
  induction placed generalizing table with
  | nil => simp
  | cons item placed ih =>
    rw [List.map_cons, List.foldl_cons, ih, isBound_insertFirst, List.exists_mem_cons_iff,
      Bool.or_eq_true, beq_iff_eq, or_assoc, or_left_comm]

/-- Of steps that are added in turn, those go to the end of a table, in their order, that are the
first of their name and whose name was not bound before. -/
theorem exists_added (placed : List (Nat × Step)) (table : StepTable) :
    ∃ added : List (Nat × Step), added.Sublist placed ∧
      ((placed.map (·.2)).foldl insertFirst table).entries =
        table.entries ++ added.map (fun item => (item.2.name, item.2)) ∧
      ∀ item, item ∈ added ↔
        IsFirst (·.2.name) placed item ∧ table.isBound item.2.name = false := by
  induction placed generalizing table with
  | nil => exact ⟨[], .slnil, by simp, by simp [IsFirst]⟩
  | cons first placed ih =>
    rw [List.map_cons, List.foldl_cons]
    cases bound : table.isBound first.2.name with
    | true =>
      obtain ⟨added, sublist, entries, members⟩ := ih table
      rw [insertFirst_of_isBound bound]
      refine ⟨added, sublist.cons first, entries, fun item => ?_⟩
      rw [members, isFirst_cons_iff]
      -- A name that may still be added is not the one of the step that is passed over.
      apply and_congr_left
      intro fresh
      have apart : first.2.name ≠ item.2.name := by
        intro same
        rw [same, fresh] at bound
        cases bound
      have other : item ≠ first := fun same => apart (same ▸ rfl)
      simp [apart, other]
    | false =>
      obtain ⟨added, sublist, entries, members⟩ := ih (table.insertFirst first.2)
      refine ⟨first :: added, sublist.cons_cons first, ?_, fun item => ?_⟩
      · rw [entries, entries_insertFirst bound, List.append_assoc, List.map_cons,
          List.singleton_append]
      · rw [List.mem_cons, members, isFirst_cons_iff, isBound_insertFirst, Bool.or_eq_false_iff,
          beq_eq_false_iff_ne]
        by_cases same : item = first
        · simp [same, bound]
        · simp only [same, false_or]
          tauto

end StepTable

namespace Step

open Text

/-- The leftmost assignment of a kind to a name that can be read. -/
structure Leftmost (kind : String) (source : Text) (start : Nat) (step : Step) : Prop where
  readable : Readable kind source start step
  least : ∀ before other, Readable kind source before other → other.name = step.name →
    start ≤ before

/-- The assignment that binds a name: the leftmost readable one of the kind that wins, or of the other
kind when none of the first can be read. -/
structure Binds (source : Text) (kind : String) (start : Nat) (step : Step) : Prop where
  leftmost : Leftmost kind source start step
  chosen : kind = "NpcStep" ∨ kind = "ObjectStep" ∧
    ∀ before other, Readable "NpcStep" source before other → other.name ≠ step.name

section

variable {source : Text} {start : Nat} {step : Step}

theorem isFirst_readings_iff {kind : String} (known : kind ∈ kinds) :
    IsFirst (·.2.name) (readings kind source) (start, step) ↔ Leftmost kind source start step := by
  rw [isFirst_iff_of_pairwise (pairwise_readings kind source), mem_readings known]
  constructor
  · rintro ⟨readable, least⟩
    exact ⟨readable, fun before other read => least (before, other) ((mem_readings known).mpr read)⟩
  · rintro ⟨readable, least⟩
    exact ⟨readable, fun other member => least other.1 other.2 ((mem_readings known).mp member)⟩

theorem exists_mem_readings_iff {kind : String} (known : kind ∈ kinds) {name : String} :
    (∃ item ∈ readings kind source, item.2.name = name) ↔
      ∃ start step, Readable kind source start step ∧ step.name = name := by
  simp only [Prod.exists, mem_readings known]

theorem binds_npc_iff : Binds source "NpcStep" start step ↔
    IsFirst (·.2.name) (readings "NpcStep" source) (start, step) := by
  rw [isFirst_readings_iff (by decide)]
  exact ⟨Binds.leftmost, fun leftmost => ⟨leftmost, .inl rfl⟩⟩

theorem binds_object_iff : Binds source "ObjectStep" start step ↔
    IsFirst (·.2.name) (readings "ObjectStep" source) (start, step) ∧
      ∀ other ∈ readings "NpcStep" source, other.2.name ≠ step.name := by
  have unassigned : (∀ other ∈ readings "NpcStep" source, other.2.name ≠ step.name) ↔
      ∀ before other, Readable "NpcStep" source before other → other.name ≠ step.name := by
    simp only [Prod.forall, mem_readings (show "NpcStep" ∈ kinds by decide)]
  rw [isFirst_readings_iff (by decide), unassigned]
  constructor
  · rintro ⟨leftmost, chosen⟩
    exact ⟨leftmost, (chosen.resolve_left (by decide)).2⟩
  · rintro ⟨leftmost, unassigned⟩
    exact ⟨leftmost, .inr ⟨rfl, unassigned⟩⟩

end

/-- The steps of a source come from what can be read of both kinds. -/
theorem extract_value_readings (source : Text) :
    (extract source).value = ((readings "ObjectStep" source).map (·.2)).foldl StepTable.insertFirst
      (((readings "NpcStep" source).map (·.2)).foldl StepTable.insertFirst ∅) := by
  rw [extract_value_eq_foldl, kinds, List.flatMap_cons, List.flatMap_cons, List.flatMap_nil,
    List.append_nil, List.foldl_append, findAll_eq_readings, findAll_eq_readings]

theorem isBound_extract_iff {source : Text} {name : String} :
    (extract source).value.isBound name = true ↔ ∃ kind ∈ ["NpcStep", "ObjectStep"], ∃ start step,
      Readable kind source start step ∧ step.name = name := by
  rw [extract_value_readings, StepTable.isBound_foldl, StepTable.isBound_foldl,
    exists_mem_readings_iff (by decide), exists_mem_readings_iff (by decide)]
  have nothing : Bindings.isBound (∅ : StepTable) name = false := rfl
  simp [nothing]

theorem get?_extract_iff {source : Text} {name : String} {step : Step} :
    (extract source).value.get? name = some step ↔
      step.name = name ∧ ∃ kind start, Binds source kind start step := by
  have pairs : ((kinds.flatMap fun kind => findAll (assignedAt? kind) source).map
      fun step => (step.name, step)) =
        (readings "NpcStep" source ++ readings "ObjectStep" source).map
          fun item => (item.2.name, item.2) := by
    simp [kinds, findAll_eq_readings, Function.comp_def]
  have binds : ∀ start, IsFirst (·.2.name) (readings "NpcStep" source ++ readings "ObjectStep" source)
      (start, step) ↔ Binds source "NpcStep" start step ∨ Binds source "ObjectStep" start step := by
    intro start
    rw [isFirst_append_iff, binds_npc_iff, binds_object_iff]
  rw [extract_value, pairs, lookup_map_eq_some_iff]
  constructor
  · rintro ⟨⟨start, step⟩, isFirst, named, rfl⟩
    rcases (binds start).mp isFirst with npc | object
    · exact ⟨named, "NpcStep", start, npc⟩
    · exact ⟨named, "ObjectStep", start, object⟩
  · rintro ⟨named, kind, start, bound⟩
    refine ⟨(start, step), (binds start).mpr ?_, named, rfl⟩
    rcases bound.chosen with rfl | ⟨rfl, -⟩
    · exact .inl bound
    · exact .inr bound

/-- The steps of a source in the order of discovery: by kind, and then by the places at which they
are bound. -/
theorem toList_extract (source : Text) : ∃ npc object : List (Nat × Step),
    (extract source).value.toList = (npc ++ object).map (·.2) ∧
      (npc.map (·.1)).Pairwise (· < ·) ∧ (object.map (·.1)).Pairwise (· < ·) ∧
      (∀ start step, (start, step) ∈ npc ↔ Binds source "NpcStep" start step) ∧
      ∀ start step, (start, step) ∈ object ↔ Binds source "ObjectStep" start step := by
  obtain ⟨npc, fromNpc, npcEntries, memNpc⟩ := StepTable.exists_added (readings "NpcStep" source) ∅
  obtain ⟨object, fromObject, entries, memObject⟩ :=
    StepTable.exists_added (readings "ObjectStep" source)
      (((readings "NpcStep" source).map (·.2)).foldl StepTable.insertFirst ∅)
  have ordered : ∀ {kind : String} {added : List (Nat × Step)},
      added.Sublist (readings kind source) → (added.map (·.1)).Pairwise (· < ·) := fun sublist =>
    List.pairwise_map.mpr ((pairwise_readings _ source).sublist sublist)
  have unbound : ∀ {name : String},
      (((readings "NpcStep" source).map (·.2)).foldl StepTable.insertFirst ∅).isBound name = false ↔
        ∀ other ∈ readings "NpcStep" source, other.2.name ≠ name := by
    intro name
    have nothing : Bindings.isBound (∅ : StepTable) name = false := rfl
    rw [← Bool.not_eq_true, StepTable.isBound_foldl, nothing]
    simp only [Bool.false_eq_true, false_or, not_exists, not_and, ne_eq]
  refine ⟨npc, object, ?_, ordered fromNpc, ordered fromObject, fun start step => ?_,
    fun start step => ?_⟩
  · rw [extract_value_readings, Bindings.toList, entries, npcEntries, List.map_append,
      List.map_append, List.map_append, List.map_map, List.map_map]
    rfl
  · rw [memNpc, binds_npc_iff]
    exact and_iff_left rfl
  · rw [memObject, binds_object_iff, unbound]

/-- A name is bound exactly when some assignment to it can be read, and its step is that of the
leftmost one of the winning kind, or of the other kind if the first has none. The steps are listed by
kind, and those of a kind by the places at which they are bound. -/
theorem first_readable_binds (source : Text) :
    let table := (extract source).value
    (∀ name, table.isBound name = true ↔ ∃ kind ∈ ["NpcStep", "ObjectStep"], ∃ start step,
        Readable kind source start step ∧ step.name = name) ∧
      (∀ name step, table.get? name = some step ↔
        step.name = name ∧ ∃ kind start, Binds source kind start step) ∧
      ∃ npc object : List (Nat × Step), table.toList = (npc ++ object).map (·.2) ∧
        (npc.map (·.1)).Pairwise (· < ·) ∧ (object.map (·.1)).Pairwise (· < ·) ∧
        (∀ start step, (start, step) ∈ npc ↔ Binds source "NpcStep" start step) ∧
        ∀ start step, (start, step) ∈ object ↔ Binds source "ObjectStep" start step :=
  ⟨fun _ => isBound_extract_iff, fun _ _ => get?_extract_iff, toList_extract source⟩

/-- A name with assignments of both kinds, of which the first of the winning kind cannot be read. -/
def contested : Text :=
  "a = new ObjectStep(this, new WorldPoint(".toList ++ "1, 2, 0), \"Dig.\");\n".toList ++
    "a = new NpcStep(this, new WorldPoint(x, ".toList ++ "2, 0), \"Wait.\");\n".toList ++
    "b = new NpcStep(this, new WorldPoint(3, ".toList ++ "4, 0), \"Talk.\");\n".toList ++
    "a = new NpcStep(this, new WorldPoint(5, ".toList ++ "6, 0), \"Ask.\");".toList

example : (extract contested).value.toList =
    [⟨"b", "Talk.", ⟨3, 4, 0⟩⟩, ⟨"a", "Ask.", ⟨5, 6, 0⟩⟩] := by
  decide +kernel

end Step
end QuestRecords
