import QuestRecords.Proofs.Source.CutArguments

namespace QuestRecords.Source

open Text

/-- Each of the texts with commas between them stands at its offset. -/
theorem exists_append_of_mem_placedFrom {start offset : Nat} {raws : List Text} {raw : Text}
    (placed : (offset, raw) ∈ placedFrom start raws) :
    ∃ before after, [','].intercalate raws = before ++ raw ++ after ∧
      offset = start + width before := by
  induction raws generalizing start with
  | nil => cases placed
  | cons first others ih =>
    rcases List.mem_cons.mp placed with here | later
    · obtain ⟨rfl, rfl⟩ := Prod.mk.inj here
      cases others with
      | nil => exact ⟨[], [], by rw [List.intercalate_singleton, List.append_nil]; rfl, rfl⟩
      | cons next others =>
        refine ⟨[], ',' :: [','].intercalate (next :: others), ?_, rfl⟩
        rw [List.intercalate_cons_cons, List.append_assoc]
        rfl
    · obtain ⟨before, after, whole, rfl⟩ := ih later
      cases others with
      | nil => cases later
      | cons next others =>
        have comma : ','.utf8Size = 1 := rfl
        refine ⟨first ++ ',' :: before, after, ?_, ?_⟩
        · rw [List.intercalate_cons_cons, whole]
          simp
        · rw [width_append, width_cons, comma]
          omega

theorem pairwise_placedFrom (start : Nat) (raws : List Text) :
    (placedFrom start raws).Pairwise fun left right => left.1 + width left.2 < right.1 := by
  induction raws generalizing start with
  | nil => exact .nil
  | cons first others ih =>
    rw [placedFrom, List.pairwise_cons]
    refine ⟨?_, ih _⟩
    intro later member
    obtain ⟨before, -, -, place⟩ := exists_append_of_mem_placedFrom member
    show start + width first < later.1
    omega

namespace Call

variable {call : Call} {offset : Nat} {argument : Text}

theorem exists_append_of_mem_placed (placed : (offset, argument) ∈ call.placedArguments) :
    ∃ before after, call.args = before ++ argument ++ after ∧
      offset = call.argsStart + width before := by
  rw [placedArguments] at placed
  split at placed
  · cases placed
  · obtain ⟨⟨place, raw⟩, among, same⟩ := List.mem_map.mp placed
    obtain ⟨rfl, rfl⟩ := Prod.mk.inj same
    obtain ⟨before, after, whole, rfl⟩ := exists_append_of_mem_placedFrom among
    obtain ⟨tail, -, trimmed⟩ := trim_split raw
    rw [intercalate_rawArguments] at whole
    refine ⟨before ++ raw.takeWhile isBlank, tail ++ after, ?_, ?_⟩
    · rw [whole]
      conv =>
        lhs
        rw [trimmed]
      simp
    · rw [width_append, Nat.add_assoc]

theorem pairwise_placedArguments (call : Call) :
    call.placedArguments.Pairwise fun left right => left.1 < right.1 := by
  rw [placedArguments]
  split
  · exact .nil
  · rw [List.pairwise_map]
    apply (pairwise_placedFrom call.argsStart (rawArguments call.args)).imp
    intro left right before
    have inside : width (left.2.takeWhile isBlank) ≤ width left.2 := by
      conv =>
        rhs
        rw [← List.takeWhile_append_dropWhile (p := isBlank) (l := left.2)]
      rw [width_append]
      exact Nat.le_add_right _ _
    exact Nat.lt_of_le_of_lt (Nat.add_le_add_left inside _)
      (Nat.lt_of_lt_of_le before (Nat.le_add_right _ _))

end Call
end QuestRecords.Source
