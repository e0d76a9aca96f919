import QuestRecords.Files.Path
import QuestRecords.Pipeline.Attempt
import QuestRecords.Proofs.Text.CaseImages

namespace QuestRecords

open Text

namespace Path

/-- Characters that divide the names of a path, or a file name from its extension. -/
def isDivider (c : Char) : Bool := c == '/' || c == '\\' || c == '.'

theorem isDivider_iff {c : Char} : isDivider c = true ↔ c = '/' ∨ c = '\\' ∨ c = '.' := by
  simp [isDivider, or_assoc]

/-- A text without dividers is one plain name. -/
def Plain (text : Text) : Prop := ∀ c ∈ text, isDivider c = false

end Path

namespace Text

open QuestRecords.Path

theorem divider_unreached {d : Char} (divider : isDivider d = true) :
    d ≠ '\x00' ∧ reachedBy upperExpansions upperRuns d.toNat = false ∧
      reachedBy lowerExpansions lowerRuns d.toNat = false := by
  rcases isDivider_iff.mp divider with rfl | rfl | rfl <;> decide +kernel

/-- A character that no name has, and that letter case turns no other character into. -/
structure Foreign (d : Char) : Prop where
  notAlphanumeric : isAlphanumeric d = false
  notStart : (d.isAlpha || d == '_' || d == '$') = false
  notLater : (isWord d || d == '$') = false
  notUpper : ∀ c, d ∈ upperChar c → c = d
  notLower : ∀ c, d ∈ lowerChar c → c = d

theorem foreign_of_divider {d : Char} (divider : isDivider d = true) : Foreign d := by
  obtain ⟨visible, notUpper, notLower⟩ := divider_unreached divider
  refine ⟨?_, ?_, ?_, fun c => eq_of_mem_mapCase visible notUpper,
    fun c => eq_of_mem_mapCase visible notLower⟩
  all_goals rcases isDivider_iff.mp divider with rfl | rfl | rfl <;> decide +kernel

theorem foreign_null : Foreign '\x00' where
  notAlphanumeric := by decide +kernel
  notStart := rfl
  notLater := by decide +kernel
  notUpper _ null := Decidable.byContradiction fun visible =>
    (mapCase_visible staysVisible_upper visible).2 null
  notLower _ null := Decidable.byContradiction fun visible =>
    (mapCase_visible staysVisible_lower visible).2 null

namespace Foreign

variable {d : Char}

theorem ne_lowerSigma (foreign : Foreign d) (behind ahead : Text) :
    d ≠ lowerSigma behind ahead := by
  have sigmas : isWord 'ς' = true ∧ isWord 'σ' = true := by decide +kernel
  have notWord := (Bool.or_eq_false_iff.mp foreign.notLater).1
  rintro rfl
  rw [lowerSigma] at notWord
  split at notWord
  · exact absurd notWord (by simp [sigmas.1])
  · exact absurd notWord (by simp [sigmas.2])

theorem notMem_lowerFrom (foreign : Foreign d) {behind text : Text} (absent : d ∉ text) :
    d ∉ lowerFrom behind text := by
  induction text generalizing behind with
  | nil => exact absent
  | cons c ahead ih =>
    obtain ⟨other, later⟩ := not_or.mp (mt List.mem_cons.mpr absent)
    rw [lowerFrom, List.mem_append, not_or]
    refine ⟨?_, ih later⟩
    split
    · exact mt List.mem_singleton.mp (foreign.ne_lowerSigma behind ahead)
    · exact fun member => other (foreign.notLower c member).symm

theorem notMem_classNameFrom (foreign : Foreign d) (atStart : Bool) (text : Text) :
    d ∉ Naming.classNameFrom atStart text := by
  induction text generalizing atStart with
  | nil => exact List.not_mem_nil
  | cons c rest ih =>
    rw [Naming.classNameFrom]
    split
    · exact ih atStart
    · split
      · rename_i alphanumeric
        have other : c ≠ d := by
          rintro rfl
          exact absurd (alphanumeric.symm.trans foreign.notAlphanumeric) (by simp)
        rw [List.mem_append, not_or]
        refine ⟨?_, ih false⟩
        split
        · exact fun member => other (foreign.notUpper c member)
        · exact mt List.mem_singleton.mp other.symm
      · exact ih true

theorem notMem_name (foreign : Foreign d) {text name rest : Text}
    (read : Source.Reader.nameOf? (fun c => c.isAlpha || c == '_' || c == '$')
      (fun c => isWord c || c == '$') text = some (name, rest)) : d ∉ name := by
  cases text with
  | nil => cases read
  | cons c text =>
    rw [Source.Reader.nameOf?, Option.ite_none_right_eq_some] at read
    obtain ⟨start, split⟩ := read
    cases split
    intro member
    rcases List.mem_cons.mp member with rfl | inside
    · exact absurd (start.symm.trans foreign.notStart) (by simp)
    · have passed := List.all_eq_true.mp List.all_takeWhile d inside
      exact absurd (passed.symm.trans foreign.notLater) (by simp)

theorem notMem_declaredClass? (foreign : Foreign d) {source name : Text}
    (declared : Source.declaredClass? source = some name) : d ∉ name := by
  obtain ⟨site, -, found⟩ := List.exists_of_findSome?_eq_some declared
  rw [Source.classNameAt?] at found
  split at found
  · cases found
  · simp only [Option.bind_eq_bind, Option.bind_eq_some_iff] at found
    obtain ⟨_, -, _, -, _, -, ahead, -, ⟨read, rest⟩, named, same⟩ := found
    cases same
    exact foreign.notMem_name named

/-- The class of a source has no foreign character, be it declared or derived. -/
theorem notMem_className (foreign : Foreign d) (displayName : String) (source : Text) :
    d ∉ (ExtractedQuest.ofSource displayName source).value.className.toList := by
  change d ∉ (ExtractedQuest.classNameOf displayName source).value.toList
  rw [ExtractedQuest.classNameOf]
  cases declared : Source.declaredClass? source with
  | some name =>
    change d ∉ (String.ofList name).toList
    rw [String.toList_ofList]
    exact foreign.notMem_declaredClass? declared
  | none =>
    change d ∉ (String.ofList (Naming.className displayName.toList)).toList
    rw [String.toList_ofList]
    exact foreign.notMem_classNameFrom true _

theorem notMem_key (foreign : Foreign d) (displayName : String) (source : Text) :
    d ∉ (ExtractedQuest.ofSource displayName source).value.key.toList := by
  change d ∉ (String.ofList (Naming.key
    (ExtractedQuest.ofSource displayName source).value.className.toList)).toList
  rw [String.toList_ofList]
  exact foreign.notMem_lowerFrom (foreign.notMem_className displayName source)

end Foreign

/-- A text without foreign characters has nothing in it that divides a path. -/
theorem undivided_of_foreign {text : Text} (native : ∀ d, Foreign d → d ∉ text) :
    ∀ c ∈ text, c ≠ '/' ∧ c ≠ '\\' ∧ c ≠ '\x00' := by
  have absent {c d : Char} (member : c ∈ text) (foreign : Foreign d) : c ≠ d :=
    fun same => native d foreign (same ▸ member)
  exact fun c member => ⟨absent member (foreign_of_divider rfl),
    absent member (foreign_of_divider rfl), absent member foreign_null⟩

end Text

namespace ExtractedQuest

open QuestRecords.Path

theorem key_plain (displayName : String) (source : Text) :
    Plain (ofSource displayName source).value.key.toList := by
  intro d member
  refine Bool.eq_false_iff.mpr fun divider => ?_
  exact (foreign_of_divider divider).notMem_key displayName source member

end ExtractedQuest

namespace Path

/-- Below one directory different relative paths stay different. -/
theorem join_injective {directory first second : String} (relative : isAbsolute first = false)
    (other : isAbsolute second = false) (same : join directory first = join directory second) :
    first = second := by
  simp only [join, relative, other, Bool.false_or] at same
  split at same
  · exact same
  · split at same
    · exact String.append_right_inj _ |>.mp same
    · exact String.append_right_inj _ |>.mp same

end Path

open QuestRecords.Path

theorem recordFile_relative {key : Text} (plain : Plain key) :
    isAbsolute (String.ofList (Naming.recordFile key)) = false := by
  rw [isAbsolute, String.toList_ofList, Naming.recordFile]
  cases key with
  | nil => rfl
  | cons c key =>
    have inside := plain c List.mem_cons_self
    simp only [isDivider, Bool.or_eq_false_iff] at inside
    simpa using inside.1.1

def recordPath (directory key : String) : String :=
  join directory (String.ofList (Naming.recordFile key.toList))

theorem recordPath_injective {directory first second : String} (plain : Plain first.toList)
    (other : Plain second.toList)
    (same : recordPath directory first = recordPath directory second) : first = second := by
  have names := join_injective (recordFile_relative plain) (recordFile_relative other) same
  have keys := List.append_cancel_right (String.ofList_injective names)
  exact String.toList_inj.mp keys

end QuestRecords
