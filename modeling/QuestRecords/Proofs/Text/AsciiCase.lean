import QuestRecords.Proofs.Source.Identifiers
import QuestRecords.Text.LetterCase

namespace QuestRecords.Text

variable {c : Char}

/-- What holds of all codes below 128 holds of every ASCII character. -/
theorem holds_of_ascii (holds : Char → Prop) (each : ∀ code < 128, holds (Char.ofNat code))
    (ascii : c.toNat < 128) : holds c := by
  have known := each c.toNat ascii
  rwa [Char.ofNat_toNat] at known

theorem toNat_lt_of_isAlphanum (alphanumeric : c.isAlphanum = true) : c.toNat < 128 := by
  apply Source.toNat_lt_of_isIdentifierPart
  rw [Source.isIdentifierPart, alphanumeric, Bool.true_or]

theorem isAlphanumeric_of_ascii (ascii : c.toNat < 128) : isAlphanumeric c = c.isAlphanum :=
  holds_of_ascii (fun c => isAlphanumeric c = c.isAlphanum) (by decide) ascii

/-- A case table that begins with the ASCII letters says nothing more of ASCII characters. -/
theorem mapCase_of_ascii {expansions : List (Nat × List Nat)} {letters : CaseRun}
    {others : List CaseRun} (unexpanded : expansions.all (128 ≤ ·.1) = true)
    (above : others.all (128 ≤ ·.first) = true) (ascii : c.toNat < 128) :
    mapCase expansions (letters :: others) c = [Char.ofNat (shiftedBy [letters] c.toNat)] := by
  have single : expansions.lookup c.toNat = none := by
    rw [List.lookup_eq_none_iff]
    intro expansion listed
    have high := List.all_eq_true.mp unexpanded expansion listed
    rw [decide_eq_true_iff] at high
    exact bne_iff_ne.mpr (Nat.ne_of_lt (Nat.lt_of_lt_of_le ascii high))
  have outside : others.find? (·.contains c.toNat) = none := by
    rw [List.find?_eq_none]
    intro run listed inside
    have high := List.all_eq_true.mp above run listed
    simp only [CaseRun.contains, Bool.and_eq_true, decide_eq_true_eq] at high inside
    omega
  rw [mapCase, single, shiftedBy, List.find?_cons, shiftedBy, List.find?_cons, outside]
  rfl

theorem upperChar_of_ascii (ascii : c.toNat < 128) : upperChar c = [c.toUpper] := by
  have table : upperRuns = ⟨0x61, 0x7A, 1, -32⟩ :: upperRuns.tail := rfl
  rw [upperChar, table, mapCase_of_ascii (by decide) (by decide) ascii]
  exact holds_of_ascii
    (fun c => [Char.ofNat (shiftedBy [⟨0x61, 0x7A, 1, -32⟩] c.toNat)] = [c.toUpper])
    (by decide) ascii

theorem lowerChar_of_ascii (ascii : c.toNat < 128) : lowerChar c = [c.toLower] := by
  have table : lowerRuns = ⟨0x41, 0x5A, 1, 32⟩ :: lowerRuns.tail := rfl
  rw [lowerChar, table, mapCase_of_ascii (by decide) (by decide) ascii]
  exact holds_of_ascii
    (fun c => [Char.ofNat (shiftedBy [⟨0x41, 0x5A, 1, 32⟩] c.toNat)] = [c.toLower])
    (by decide) ascii

end QuestRecords.Text
