import Mathlib.Data.List.Induction
import Mathlib.Data.List.Nodup

namespace QuestRecords

variable {α β : Type} [BEq α] [LawfulBEq α] [BEq β] [LawfulBEq β] {items : List α} {item : α}

theorem eraseDups_concat_of_mem (met : item ∈ items) :
    (items ++ [item]).eraseDups = items.eraseDups := by
  have repeated : [item].removeAll items = [] := by simp [List.removeAll, met]
  rw [List.eraseDups_append, repeated, List.eraseDups_nil, List.append_nil]

theorem eraseDups_concat_of_notMem (fresh : item ∉ items) :
    (items ++ [item]).eraseDups = items.eraseDups ++ [item] := by
  have kept : [item].removeAll items = [item] := by simp [List.removeAll, fresh]
  rw [List.eraseDups_append, kept]
  rfl

theorem nodup_eraseDups (items : List α) : items.eraseDups.Nodup := by
  induction items using List.reverseRecOn with
  | nil => exact List.nodup_nil
  | append_singleton items item ih =>
    by_cases met : item ∈ items
    · rw [eraseDups_concat_of_mem met]
      exact ih
    · rw [eraseDups_concat_of_notMem met, ← List.concat_eq_append, List.nodup_concat]
      exact ⟨mt List.mem_eraseDups.mp met, ih⟩

/-- Names that keep the members of a list apart are first where the members are. -/
theorem eraseDups_map {name : α → β}
    (apart : ∀ one ∈ items, ∀ other ∈ items, name one = name other → one = other) :
    (items.map name).eraseDups = items.eraseDups.map name := by
  induction items using List.reverseRecOn with
  | nil => rfl
  | append_singleton items item ih =>
    have inside := ih fun one listed other listed' =>
      apart one (List.mem_append_left _ listed) other (List.mem_append_left _ listed')
    rw [List.map_append, List.map_singleton]
    by_cases met : item ∈ items
    · rw [eraseDups_concat_of_mem met, eraseDups_concat_of_mem (List.mem_map_of_mem met), inside]
    · have fresh : name item ∉ items.map name := by
        intro listed
        obtain ⟨other, member, same⟩ := List.mem_map.mp listed
        have equal := apart other (List.mem_append_left _ member) item
          (List.mem_append_right _ List.mem_cons_self) same
        exact met (equal ▸ member)
      rw [eraseDups_concat_of_notMem met, eraseDups_concat_of_notMem fresh, inside,
        List.map_append, List.map_singleton]

section

variable {γ : Type}

theorem lookup_cons_eq_ite [DecidableEq α] (name first : α) (value : γ) (rest : List (α × γ)) :
    ((first, value) :: rest).lookup name =
      if name = first then some value else rest.lookup name := by
  rw [List.lookup_cons]
  by_cases same : name = first
  · simp [same]
  · have apart : (name == first) = false := by simpa using same
    simp [same, apart]

theorem lookup_eq_some_iff_mem {entries : List (α × γ)} {name : α} {value : γ}
    (distinct : (entries.map (·.1)).Nodup) :
    entries.lookup name = some value ↔ (name, value) ∈ entries := by
  induction entries with
  | nil => simp
  | cons entry rest ih =>
    obtain ⟨first, given⟩ := entry
    rw [List.map_cons, List.nodup_cons] at distinct
    obtain ⟨fresh, distinct⟩ := distinct
    rw [List.mem_cons, Prod.mk.injEq, ← ih distinct, List.lookup_cons]
    by_cases same : name = first
    · subst same
      have absent : rest.lookup name ≠ some value := fun found =>
        fresh (List.mem_map_of_mem (f := (·.1)) ((ih distinct).mp found))
      simp [absent, eq_comm]
    · have apart : (name == first) = false := by simpa using same
      simp [apart, same]

end

end QuestRecords
