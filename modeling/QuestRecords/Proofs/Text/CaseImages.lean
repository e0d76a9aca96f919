import QuestRecords.Text.LetterCase

namespace QuestRecords.Text

/-- Whether a run takes some code point to the given one. -/
def CaseRun.reaches (run : CaseRun) (code : Nat) : Bool :=
  decide (0 ≤ code - run.shift) && run.contains (code - run.shift).toNat

/-- Whether a case table takes some other code point to the given one. -/
def reachedBy (expansions : List (Nat × List Nat)) (runs : List CaseRun) (code : Nat) : Bool :=
  runs.any (·.reaches code) || expansions.any fun expansion => expansion.2.contains code

theorem shiftedBy_eq {runs : List CaseRun} {origin code : Nat} (positive : 0 < code)
    (unreached : runs.any (·.reaches code) = false) (image : shiftedBy runs origin = code) :
    origin = code := by
  rw [shiftedBy] at image
  cases found : runs.find? (·.contains origin) with
  | none =>
    rw [found] at image
    exact image
  | some run =>
    rw [found] at image
    have back : (code : Int) - run.shift = origin := by
      have shifted : (origin + run.shift).toNat = code := image
      omega
    have reached : run.reaches code = true := by
      rw [CaseRun.reaches, back]
      simpa using List.find?_some found
    have absent := List.any_eq_false.mp unreached run (List.mem_of_find?_eq_some found)
    exact absurd reached absent

theorem ofNat_eq_of_ne_null {code : Nat} {c : Char} (image : Char.ofNat code = c)
    (visible : c ≠ '\x00') : code = c.toNat := by
  subst image
  by_cases valid : code.isValidChar
  · rw [Char.ofNat, dif_pos valid]
    rfl
  · rw [Char.ofNat, dif_neg valid] at visible
    exact absurd rfl visible

/-- Only a character itself is mapped to a text with that character in it. -/
theorem eq_of_mem_mapCase {expansions : List (Nat × List Nat)} {runs : List CaseRun} {c d : Char}
    (visible : d ≠ '\x00') (unreached : reachedBy expansions runs d.toNat = false)
    (member : d ∈ mapCase expansions runs c) : c = d := by
  obtain ⟨noRun, noExpansion⟩ := Bool.or_eq_false_iff.mp unreached
  rw [mapCase] at member
  cases found : expansions.lookup c.toNat with
  | some codes =>
    rw [found] at member
    obtain ⟨code, listed, image⟩ := List.mem_map.mp member
    have same := ofNat_eq_of_ne_null image visible
    have entry : (c.toNat, codes) ∈ expansions := by
      obtain ⟨before, after, split, -⟩ := List.lookup_eq_some_iff.mp found
      exact split ▸ List.mem_append_right before List.mem_cons_self
    have absent := List.any_eq_false.mp noExpansion _ entry
    exact absurd (List.contains_iff_mem.mpr (same ▸ listed)) absent
  | none =>
    rw [found] at member
    have same := ofNat_eq_of_ne_null (List.mem_singleton.mp member).symm visible
    have positive : 0 < d.toNat :=
      Nat.pos_of_ne_zero fun zero => visible (Char.toNat_inj.mp zero)
    exact Char.toNat_inj.mp (shiftedBy_eq positive noRun same)

/-- A code point of a character other than the one of code zero. -/
def isVisible (code : Nat) : Bool :=
  0 < code && (code < 0xD800 || 0xDFFF < code && code < 0x110000)

theorem isVisible_toNat {c : Char} (visible : c ≠ '\x00') : isVisible c.toNat = true := by
  have positive : 0 < c.toNat := Nat.pos_of_ne_zero fun zero => visible (Char.toNat_inj.mp zero)
  have valid : c.toNat < 0xD800 ∨ 0xDFFF < c.toNat ∧ c.toNat < 0x110000 := c.valid
  simpa [isVisible, positive] using valid

theorem ofNat_ne_null {code : Nat} (visible : isVisible code = true) : Char.ofNat code ≠ '\x00' := by
  intro null
  simp only [isVisible, Bool.and_eq_true, Bool.or_eq_true, decide_eq_true_eq] at visible
  have valid : code.isValidChar := visible.2
  have same : (Char.ofNat code).toNat = code := by
    rw [Char.ofNat, dif_pos valid]
    rfl
  rw [null] at same
  exact absurd same.symm (Nat.ne_of_gt visible.1)

/-- Whether a run takes its code points to visible characters. -/
def CaseRun.staysVisible (run : CaseRun) : Bool :=
  0 < run.first + run.shift &&
    (run.last + run.shift < 0xD800 ||
      0xDFFF < run.first + run.shift && run.last + run.shift < 0x110000)

/-- Whether a case table maps every visible character to a text of such characters that is not
empty. -/
def staysVisible (expansions : List (Nat × List Nat)) (runs : List CaseRun) : Bool :=
  runs.all CaseRun.staysVisible &&
    expansions.all fun expansion => !expansion.2.isEmpty && expansion.2.all isVisible

theorem isVisible_shiftedBy {runs : List CaseRun} {code : Nat}
    (stays : runs.all CaseRun.staysVisible = true) (visible : isVisible code = true) :
    isVisible (shiftedBy runs code) = true := by
  rw [shiftedBy]
  cases found : runs.find? (·.contains code) with
  | none => exact visible
  | some run =>
    have inside := List.find?_some found
    have kept := List.all_eq_true.mp stays run (List.mem_of_find?_eq_some found)
    simp only [CaseRun.contains, Bool.and_eq_true, decide_eq_true_eq] at inside
    simp only [CaseRun.staysVisible, Bool.and_eq_true, Bool.or_eq_true, decide_eq_true_eq] at kept
    simp only [isVisible, Bool.and_eq_true, Bool.or_eq_true, decide_eq_true_eq]
    omega

/-- A visible character is mapped to visible characters, and to one at least. -/
theorem mapCase_visible {expansions : List (Nat × List Nat)} {runs : List CaseRun} {c : Char}
    (stays : staysVisible expansions runs = true) (visible : c ≠ '\x00') :
    mapCase expansions runs c ≠ [] ∧ '\x00' ∉ mapCase expansions runs c := by
  obtain ⟨alongRuns, expanded⟩ := Bool.and_eq_true_iff.mp stays
  rw [mapCase]
  cases found : expansions.lookup c.toNat with
  | some codes =>
    obtain ⟨before, after, split, -⟩ := List.lookup_eq_some_iff.mp found
    have entry := List.all_eq_true.mp expanded (c.toNat, codes)
      (split ▸ List.mem_append_right before List.mem_cons_self)
    obtain ⟨filled, shown⟩ := Bool.and_eq_true_iff.mp entry
    refine ⟨by simpa using filled, fun null => ?_⟩
    obtain ⟨code, listed, image⟩ := List.mem_map.mp null
    exact ofNat_ne_null (List.all_eq_true.mp shown code listed) image
  | none =>
    have shown := isVisible_shiftedBy alongRuns (isVisible_toNat visible)
    refine ⟨List.cons_ne_nil _ _, fun null => ?_⟩
    exact ofNat_ne_null shown (List.mem_singleton.mp null).symm

theorem staysVisible_upper : staysVisible upperExpansions upperRuns = true := by decide +kernel

theorem staysVisible_lower : staysVisible lowerExpansions lowerRuns = true := by decide +kernel

end QuestRecords.Text
