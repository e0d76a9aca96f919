import QuestRecords.Proofs.Offsets.Balanced

namespace QuestRecords.Offsets

open Text

namespace Brackets

/-- Two brackets that differ and may stand between each other. -/
structure Distinct (brackets : Brackets) : Prop where
  apart : brackets.opening ≠ brackets.closing
  opening : brackets.excluded brackets.opening = false
  closing : brackets.excluded brackets.closing = false

/-- A text without excluded characters, in which `depth` more brackets close than open and on the
way never more than that. -/
structure Closes (brackets : Brackets) (depth : Nat) (inner : Text) : Prop where
  allowed : ∀ c ∈ inner, brackets.excluded c = false
  even : inner.count brackets.opening + depth = inner.count brackets.closing
  ordered : ∀ front, front <+: inner →
    front.count brackets.closing ≤ front.count brackets.opening + depth

/-- A text in which brackets are nested. -/
abbrev Nested (brackets : Brackets) (inner : Text) : Prop := brackets.Closes 0 inner

theorem distinct_parameterList : parameterList.Distinct := ⟨by decide, by decide, by decide⟩

theorem distinct_bodyBraces : bodyBraces.Distinct := ⟨by decide, by decide, by decide⟩

variable {brackets : Brackets} {depth : Nat} {c : Char} {inner : Text}

theorem closes_nil_iff : brackets.Closes depth [] ↔ depth = 0 := by
  constructor
  · intro closes
    have even := closes.even
    simpa using even
  · rintro rfl
    refine ⟨by simp, by simp, ?_⟩
    intro front begins
    simp [List.prefix_nil.mp begins]

/-- The counts of a text behind its first character. -/
theorem closes_cons_iff {more : Nat} (allowed : brackets.excluded c = false)
    (counted : (if c = brackets.opening then 1 else 0) + depth =
      (if c = brackets.closing then 1 else 0) + more) :
    brackets.Closes depth (c :: inner) ↔ brackets.Closes more inner := by
  have counts (text : Text) (bracket : Char) : (c :: text).count bracket =
      text.count bracket + if c = bracket then 1 else 0 := by
    rw [List.count_cons]
    simp only [beq_iff_eq]
  constructor
  · intro closes
    refine ⟨fun d member => closes.allowed d (List.mem_cons_of_mem c member), ?_, ?_⟩
    · have even := closes.even
      rw [counts, counts] at even
      omega
    · intro front begins
      have ordered := closes.ordered (c :: front) (List.cons_prefix_cons.mpr ⟨rfl, begins⟩)
      rw [counts, counts] at ordered
      omega
  · intro closes
    refine ⟨List.forall_mem_cons.mpr ⟨allowed, closes.allowed⟩, ?_, ?_⟩
    · have even := closes.even
      rw [counts, counts]
      omega
    · intro front begins
      rcases List.prefix_cons_iff.mp begins with rfl | ⟨front, rfl, later⟩
      · simp
      · have ordered := closes.ordered front later
        rw [counts, counts]
        omega

theorem closes_opening_iff (distinct : brackets.Distinct) :
    brackets.Closes depth (brackets.opening :: inner) ↔ brackets.Closes (depth + 1) inner := by
  apply closes_cons_iff distinct.opening
  rw [if_pos rfl, if_neg distinct.apart]
  omega

theorem closes_closing_iff (distinct : brackets.Distinct) :
    brackets.Closes (depth + 1) (brackets.closing :: inner) ↔ brackets.Closes depth inner := by
  apply closes_cons_iff distinct.closing
  rw [if_pos rfl, if_neg distinct.apart.symm]
  omega

theorem not_closes_closing (distinct : brackets.Distinct) :
    ¬ brackets.Closes 0 (brackets.closing :: inner) := by
  intro closes
  have ordered := closes.ordered [brackets.closing] ⟨inner, rfl⟩
  simp [distinct.apart.symm] at ordered

theorem closes_other_iff (notOpening : c ≠ brackets.opening) (notClosing : c ≠ brackets.closing)
    (allowed : brackets.excluded c = false) :
    brackets.Closes depth (c :: inner) ↔ brackets.Closes depth inner := by
  apply closes_cons_iff allowed
  rw [if_neg notOpening, if_neg notClosing]

end Brackets

open Brackets

variable {brackets : Brackets}

/-- What is read stands before a closing bracket, and brackets close in it as they should. -/
theorem inside?_eq_some_iff (distinct : brackets.Distinct) {depth : Nat} {text inner : Text} :
    inside? brackets depth text = some inner ↔
      (∃ rest, text = inner ++ brackets.closing :: rest) ∧ brackets.Closes depth inner := by
  induction text generalizing depth inner with
  | nil => simp [inside?]
  | cons c text ih =>
    have later {next : Nat} (first : ∀ inner, brackets.Closes depth (c :: inner) ↔
        brackets.Closes next inner) (filled : ¬ (c = brackets.closing ∧ depth = 0)) :
        (inside? brackets next text).map (c :: ·) = some inner ↔
          (∃ rest, c :: text = inner ++ brackets.closing :: rest) ∧
            brackets.Closes depth inner := by
      rw [Option.map_eq_some_iff]
      constructor
      · rintro ⟨inner, read, rfl⟩
        obtain ⟨⟨rest, rfl⟩, closes⟩ := ih.mp read
        exact ⟨⟨rest, rfl⟩, (first inner).mpr closes⟩
      · rintro ⟨⟨rest, split⟩, closes⟩
        cases inner with
        | nil => exact absurd ⟨(List.cons.inj split).1, closes_nil_iff.mp closes⟩ filled
        | cons d inner =>
          obtain ⟨rfl, rfl⟩ := List.cons.inj split
          exact ⟨inner, ih.mpr ⟨⟨rest, rfl⟩, (first inner).mp closes⟩, rfl⟩
    rw [inside?]
    by_cases opens : c = brackets.opening
    · subst opens
      rw [if_pos rfl]
      exact later (fun _ => closes_opening_iff distinct) fun both => distinct.apart both.1
    by_cases closing : c = brackets.closing
    · subst closing
      rw [if_neg opens, if_pos rfl]
      cases depth with
      | zero =>
        rw [if_pos rfl, Option.some.injEq]
        constructor
        · rintro rfl
          exact ⟨⟨text, rfl⟩, closes_nil_iff.mpr rfl⟩
        · rintro ⟨⟨rest, split⟩, closes⟩
          cases inner with
          | nil => rfl
          | cons d inner =>
            obtain ⟨rfl, -⟩ := List.cons.inj split
            exact absurd closes (not_closes_closing distinct)
      | succ depth =>
        rw [if_neg (Nat.succ_ne_zero depth)]
        exact later (fun _ => closes_closing_iff distinct) fun both => Nat.succ_ne_zero _ both.2
    rw [if_neg opens, if_neg closing]
    by_cases excluded : brackets.excluded c = true
    · rw [if_pos excluded]
      constructor
      · intro read
        cases read
      · rintro ⟨⟨rest, split⟩, closes⟩
        cases inner with
        | nil => exact absurd (List.cons.inj split).1 closing
        | cons d inner =>
          obtain ⟨rfl, -⟩ := List.cons.inj split
          exact absurd (closes.allowed c List.mem_cons_self) (by simp [excluded])
    · rw [if_neg excluded]
      exact later (fun _ => closes_other_iff opens closing (by simpa using excluded))
        fun both => closing both.1

/-- Where the counts are even once before a closing bracket, an open bracket is closed. -/
theorem isSome_inside?_iff (distinct : brackets.Distinct) {text : Text} :
    (inside? brackets 0 text).isSome = true ↔ ∃ inner rest,
      text = inner ++ brackets.closing :: rest ∧ (∀ c ∈ inner, brackets.excluded c = false) ∧
        inner.count brackets.opening = inner.count brackets.closing := by
  constructor
  · intro read
    obtain ⟨inner, read⟩ := Option.isSome_iff_exists.mp read
    obtain ⟨⟨rest, split⟩, closes⟩ := (inside?_eq_some_iff distinct).mp read
    exact ⟨inner, rest, split, closes.allowed, closes.even⟩
  · rintro ⟨inner, rest, rfl, allowed, even⟩
    -- The shortest beginning with even counts is reached first, so the depth is generalised.
    suffices general : ∀ depth, inner.count brackets.opening + depth =
        inner.count brackets.closing →
          (inside? brackets depth (inner ++ brackets.closing :: rest)).isSome = true from
      general 0 even
    clear even
    induction inner with
    | nil =>
      intro depth even
      obtain rfl : depth = 0 := by simpa using even
      simp [inside?, distinct.apart.symm]
    | cons c inner ih =>
      intro depth even
      obtain ⟨first, others⟩ := List.forall_mem_cons.mp allowed
      rw [List.count_cons, List.count_cons] at even
      rw [List.cons_append, inside?]
      by_cases opens : c = brackets.opening
      · subst opens
        rw [if_pos rfl, Option.isSome_map]
        apply ih others
        simp [distinct.apart] at even
        omega
      by_cases closing : c = brackets.closing
      · subst closing
        rw [if_neg opens, if_pos rfl]
        split
        · rfl
        · rw [Option.isSome_map]
          apply ih others
          simp [opens] at even
          omega
      · rw [if_neg opens, if_neg closing, if_neg (by simp [first]), Option.isSome_map]
        apply ih others
        simpa [opens, closing] using even

end QuestRecords.Offsets
