import QuestRecords.Proofs.Offsets.Checked
import QuestRecords.Source.ListLiteral

namespace QuestRecords.Offsets

open Text Source

/-- A text that cannot overlap itself: no proper end of it is its beginning. -/
def Unbordered (needle : Text) : Prop :=
  ∀ size < needle.length, 0 < size → ¬ needle.drop size <+: needle

instance (needle : Text) : Decidable (Unbordered needle) :=
  inferInstanceAs (Decidable (∀ size < needle.length, _))

/-- The place behind an occurrence at a site. -/
def found? (needle : Text) (site : Site) : Option Nat :=
  if (after? needle site.ahead).isSome then some site.offset else none

theorem found?_eq_some_iff {needle : Text} {site : Site} {start : Nat} :
    found? needle site = some start ↔
      (∃ rest, site.ahead = needle ++ rest) ∧ site.offset = start := by
  simp [found?, Option.isSome_iff_exists, after?_eq_some_iff]

theorem after?_of_found? {needle : Text} {site : Site} (missing : found? needle site = none) :
    after? needle site.ahead = none := by
  simpa [found?] using missing

theorem not_prefix_behind {needle rest : Text} (separate : Unbordered needle) {size : Nat}
    (positive : 0 < size) (inside : size < needle.length) :
    ¬ needle <+: needle.drop size ++ rest := by
  intro overlap
  apply separate size inside positive
  apply List.prefix_of_prefix_length_le (List.prefix_append _ rest) overlap
  simp

theorem isPrefix_of_after? {needle text rest : Text} (found : after? needle text = some rest) :
    needle <+: text := ⟨rest, (after?_eq_some_iff.mp found).symm⟩

/-- Searching on behind an occurrence skips places at which nothing occurs. -/
theorem findDisjointFrom_occurrence? {needle : Text} (separate : Unbordered needle)
    (behind : Text) (skip : Nat) (text : Text)
    (clear : ∀ size < skip, ¬ needle <+: text.drop size) :
    (findDisjointFrom (Member.occurrence? needle) behind skip text).map
      (fun found => found.1.offset) = (sitesFrom behind text).filterMap (found? needle) := by
  induction text generalizing behind skip with
  | nil => simp [findDisjointFrom, sitesFrom]
  | cons c ahead ih =>
    rw [sitesFrom, List.filterMap_cons]
    cases skip with
    | succ skip =>
      have missing : found? needle ⟨behind, c :: ahead⟩ = none := by
        cases read : after? needle (c :: ahead) with
        | none => simp [found?, read]
        | some rest => exact absurd (isPrefix_of_after? read) (clear 0 (Nat.succ_pos skip))
      rw [missing, findDisjointFrom]
      apply ih
      intro size below
      exact clear (size + 1) (Nat.succ_lt_succ below)
    | zero =>
      cases read : after? needle (c :: ahead) with
      | none =>
        simp only [findDisjointFrom, Member.occurrence?, found?, read, Option.map_none]
        apply ih
        intro size below
        exact absurd below (Nat.not_lt_zero size)
      | some rest =>
        simp only [findDisjointFrom, Member.occurrence?, found?, read, Option.map_some,
          List.map_cons]
        apply congrArg
        apply ih
        intro size below
        have same := after?_eq_some_iff.mp read
        cases needle with
        | nil =>
          have : ahead.length + 1 = rest.length := congrArg List.length same
          omega
        | cons first needle =>
          rw [List.cons_append] at same
          obtain ⟨rfl, rfl⟩ := List.cons.inj same
          simp only [List.length_append, Nat.add_sub_cancel] at below
          rw [List.drop_append_of_le_length (Nat.le_of_lt below)]
          exact not_prefix_behind separate (Nat.succ_pos size) (Nat.succ_lt_succ below)

/-- A text that does not overlap itself is found at every place where it stands. -/
theorem occurrences_of_unbordered {needle : Text} (separate : Unbordered needle) (text : Text) :
    occurrences text needle = (sites text).filterMap (found? needle) :=
  findDisjointFrom_occurrence? separate [] 0 text fun size below =>
    absurd below (Nat.not_lt_zero size)

theorem mem_findDisjointFrom {read : Site → Option (α × Text)} {behind text : Text} {skip : Nat}
    {value : α} (member : value ∈ findDisjointFrom read behind skip text) :
    ∃ site ∈ sitesFrom behind text, ∃ rest, read site = some (value, rest) := by
  induction text generalizing behind skip with
  | nil => simp [findDisjointFrom] at member
  | cons c ahead ih =>
    have later : ∀ {skip}, value ∈ findDisjointFrom read (c :: behind) skip ahead →
        ∃ site ∈ sitesFrom behind (c :: ahead), ∃ rest, read site = some (value, rest) := by
      intro skip member
      obtain ⟨site, among, rest, found⟩ := ih member
      exact ⟨site, List.mem_cons_of_mem _ among, rest, found⟩
    cases skip with
    | succ skip => exact later member
    | zero =>
      simp only [findDisjointFrom] at member
      split at member
      · rename_i found rest here
        rcases List.mem_cons.mp member with rfl | member
        · exact ⟨_, List.mem_cons_self, rest, here⟩
        · exact later member
      · exact later member

theorem mem_findDisjoint {read : Site → Option (α × Text)} {text : Text} {value : α}
    (member : value ∈ findDisjoint read text) :
    ∃ site ∈ sites text, ∃ rest, read site = some (value, rest) := mem_findDisjointFrom member

theorem unbordered_new : Unbordered ['n', 'e', 'w'] := by decide

theorem unbordered_of_mem_builders {builder : Text} (member : builder ∈ ListLiteral.builders) :
    Unbordered builder := by
  revert builder
  decide

end QuestRecords.Offsets
