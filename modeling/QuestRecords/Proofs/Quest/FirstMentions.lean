import QuestRecords.Proofs.Repetitions
import QuestRecords.Quest.Requirement

namespace QuestRecords

/-- Keeping names that were not met before is erasing those that were. -/
theorem firstOccurrences_eq_eraseDups (names : List String) :
    Requirement.firstOccurrences names = names.eraseDups := by
  induction names using List.reverseRecOn with
  | nil => rfl
  | append_singleton names name ih =>
    rw [Requirement.firstOccurrences] at ih ⊢
    rw [List.foldl_concat, ih]
    by_cases met : name ∈ names
    · rw [eraseDups_concat_of_mem met, if_pos (List.mem_eraseDups.mpr met)]
    · rw [eraseDups_concat_of_notMem met, if_neg (mt List.mem_eraseDups.mp met)]

namespace Requirement

theorem mem_firstOccurrences {names : List String} {name : String} :
    name ∈ firstOccurrences names ↔ name ∈ names := by
  rw [firstOccurrences_eq_eraseDups, List.mem_eraseDups]

theorem firstOccurrences_concat (names : List String) (name : String) :
    firstOccurrences (names ++ [name]) =
      if name ∈ names then firstOccurrences names else firstOccurrences names ++ [name] := by
  rw [firstOccurrences_eq_eraseDups, firstOccurrences_eq_eraseDups]
  split
  · rename_i met
    exact eraseDups_concat_of_mem met
  · rename_i fresh
    exact eraseDups_concat_of_notMem fresh

theorem nodup_firstOccurrences (names : List String) : (firstOccurrences names).Nodup := by
  rw [firstOccurrences_eq_eraseDups]
  exact nodup_eraseDups names

/-- What stands behind a list removes and reorders none of its first mentions. -/
theorem firstOccurrences_prefix (names others : List String) :
    firstOccurrences names <+: firstOccurrences (names ++ others) := by
  rw [firstOccurrences_eq_eraseDups, firstOccurrences_eq_eraseDups, List.eraseDups_append]
  exact List.prefix_append _ _

theorem firstOccurrences_of_nodup {names : List String} (distinct : names.Nodup) :
    firstOccurrences names = names := by
  induction names using List.reverseRecOn with
  | nil => rfl
  | append_singleton names name ih =>
    rw [← List.concat_eq_append, List.nodup_concat] at distinct
    obtain ⟨fresh, distinct⟩ := distinct
    rw [firstOccurrences_concat, if_neg fresh, ih distinct]

/-- Repetitions that are removed from two lists first need not be removed from both together. -/
theorem firstOccurrences_append (names others : List String) :
    firstOccurrences (firstOccurrences names ++ firstOccurrences others) =
      firstOccurrences (names ++ others) := by
  induction others using List.reverseRecOn with
  | nil =>
    have empty : firstOccurrences [] = [] := rfl
    rw [empty, List.append_nil, List.append_nil,
      firstOccurrences_of_nodup (nodup_firstOccurrences names)]
  | append_singleton others name ih =>
    rw [← List.append_assoc names, firstOccurrences_concat, firstOccurrences_concat]
    by_cases met : name ∈ others
    · rw [if_pos met, if_pos (List.mem_append_right names met), ih]
    · rw [if_neg met, ← List.append_assoc, firstOccurrences_concat, ih]
      simp only [List.mem_append, mem_firstOccurrences]

end Requirement
end QuestRecords
