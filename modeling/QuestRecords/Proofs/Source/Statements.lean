import QuestRecords.Proofs.Source.Declarations
import QuestRecords.Proofs.Source.Readings

/-! Statements laid out in a body, with gaps of any length before each and behind the last. A search
through such a body finds what it finds in each statement, in order, and no statement declares a
member. -/
namespace QuestRecords.Source

open Text Reader

/-- A body in which parts are written in order between gaps. -/
inductive Laid {Part : Type} (write : Part → Text) : List Part → Text → Prop where
  | nil (gaps : ∀ c ∈ front, isGap c = true) : Laid write [] front
  | cons (gaps : ∀ c ∈ front, isGap c = true) (rest : Laid write parts body) :
      Laid write (part :: parts) (front ++ (write part ++ body))

variable {Part : Type} {write : Part → Text} {parts : List Part} {body : Text}

/-- Any parts can be laid out, each behind a line break. -/
theorem Laid.lines (parts : List Part) :
    Laid write parts (parts.flatMap fun part => '\n' :: write part) := by
  have gap : ∀ c ∈ ['\n'], isGap c = true := List.forall_mem_singleton.mpr (by decide)
  induction parts with
  | nil => exact .nil (List.forall_mem_nil _)
  | cons part parts ih => exact .cons gap ih

/-- What is written of a part ends with a semicolon, and no brace stands in it. -/
def Statements (write : Part → Text) : Prop :=
  ∀ part, ∃ front, write part = front ++ [';'] ∧ '\x7b' ∉ front ∧ '\x7d' ∉ front

/-- A place in front of which a statement may have ended or a body may have been opened. -/
def AtStatement (behind : Text) : Prop :=
  ∀ c rest, behind = c :: rest → isGap c = true ∨ c = ';' ∨ c = '\x7b'

namespace AtStatement

variable {behind : Text}

theorem nil : AtStatement [] := fun _ _ same => (List.cons_ne_nil _ _ same.symm).elim

theorem gaps {front : Text} (gap : ∀ c ∈ front, isGap c = true) (start : AtStatement behind) :
    AtStatement (front.reverse ++ behind) := by
  intro c rest same
  cases turned : front.reverse with
  | nil => exact start c rest (by rw [← same, turned, List.nil_append])
  | cons d others =>
    rw [turned] at same
    cases same
    exact .inl (gap c (List.mem_reverse.mp (by simp [turned])))

theorem semicolon (front : Text) : AtStatement ((front ++ [';']).reverse ++ behind) := by
  intro c rest same
  simp only [List.reverse_append, List.reverse_singleton, List.cons_append] at same
  exact .inr (.inl (List.cons.inj same).1.symm)

theorem brace : AtStatement ('\x7b' :: behind) := by
  intro c rest same
  exact .inr (.inr (List.cons.inj same).1.symm)

theorem startsWord (start : AtStatement behind) (ahead : Text) :
    Reader.startsWord ⟨behind, ahead⟩ = true := by
  cases behind with
  | nil => rfl
  | cons c rest =>
    have edge : isWord c = false := by
      rcases start c rest rfl with gap | rfl | rfl
      · simp only [isGap, Bool.or_eq_true, beq_iff_eq] at gap
        rcases gap with (((rfl | rfl) | rfl) | rfl) | rfl <;> decide +kernel
      · decide +kernel
      · decide +kernel
    simp [Reader.startsWord, isWordEdge, edge]

end AtStatement

section

variable {α : Type} {read : Site → Option α}

/-- A search through laid out statements is one through each of them. -/
theorem foundIn_laid (statements : Statements write)
    (gap : ∀ c, isGap c = true → ∀ behind ahead, read ⟨behind, c :: ahead⟩ = none)
    (result : Part → Option α)
    (found : ∀ part behind tail, AtStatement behind →
      foundIn read behind (write part) tail = (result part).toList)
    (laid : Laid write parts body) {behind : Text} (start : AtStatement behind) (tail : Text) :
    foundIn read behind body tail = parts.filterMap result := by
  induction laid generalizing behind with
  | nil gaps => exact foundIn_of_heads fun c member => gap c (gaps c member)
  | @cons front parts body part gaps rest ih =>
    have silent : ∀ tail, foundIn read behind front tail = [] := fun tail =>
      foundIn_of_heads fun c member => gap c (gaps c member)
    obtain ⟨inside, whole, -⟩ := statements part
    rw [foundIn_append, silent, List.nil_append, foundIn_append,
      found part _ _ (start.gaps gaps), ih, List.filterMap_cons]
    · cases result part <;> rfl
    · rw [whole]
      exact .semicolon inside

end

theorem Laid.bodiless (statements : Statements write) (laid : Laid write parts body)
    {name : Text} {c : Char} (solid : isGap c = false) (absent : ';' ∉ c :: name) (tail : Text) :
    Member.Bodiless (c :: name) body tail := by
  have apart : ∀ {front : Text}, (∀ d ∈ front, isGap d = true) → c ∉ front := by
    intro front gaps member
    simp [gaps c member] at solid
  induction laid generalizing tail with
  | nil gaps => exact .of_head (apart gaps)
  | @cons front parts body part gaps rest ih =>
    obtain ⟨inside, whole, braceless, -⟩ := statements part
    have statement : ∀ tail, Member.Bodiless (c :: name) (write part) tail := by
      intro tail
      rw [whole]
      exact .of_semicolon absent braceless
    exact .append (.of_head (apart gaps)) (.append (statement _) (ih tail))

theorem Laid.braceless (statements : Statements write) (laid : Laid write parts body) :
    '\x7b' ∉ body ∧ '\x7d' ∉ body := by
  have apart : ∀ {front : Text} {c : Char}, isGap c = false → (∀ d ∈ front, isGap d = true) →
      c ∉ front := by
    intro front c solid gaps member
    simp [gaps c member] at solid
  induction laid with
  | nil gaps => exact ⟨apart (by decide) gaps, apart (by decide) gaps⟩
  | @cons front parts body part gaps rest ih =>
    obtain ⟨inside, whole, opening, closing⟩ := statements part
    have first : '\x7b' ∉ front ∧ '\x7d' ∉ front :=
      ⟨apart (by decide) gaps, apart (by decide) gaps⟩
    simp [whole, first, opening, closing, ih]

theorem assigned?_of_head {c : Char} (other : isIdentifierStart c = false) (behind ahead : Text) :
    assigned? ⟨behind, c :: ahead⟩ = none := by
  have unnamed : name? (c :: ahead) = none := if_neg (by simpa [isIdentifierStart] using other)
  rw [assigned?]
  simp [unnamed]

theorem assigned?_of_word {c : Char} (word : isWord c = true) (behind ahead : Text) :
    assigned? ⟨c :: behind, ahead⟩ = none := by
  simp [assigned?, startsWord, isWordEdge, word]

theorem isIdentifierStart_of_isGap {c : Char} (gap : isGap c = true) :
    isIdentifierStart c = false := by
  apply Bool.eq_false_iff.mpr
  intro start
  simp [isGap_of_isIdentifierPart (isIdentifierPart_of_isIdentifierStart start)] at gap

/-- An assignment is read up to what is assigned. -/
theorem assigned?_written (name : Identifier) {behind value : Text} (start : AtStatement behind)
    {c : Char} (first : value.head? = some c) (solid : isBlank c = false) :
    assigned? ⟨behind, name.text ++ (" = ".toList ++ value)⟩ = some (name.text, value) := by
  obtain ⟨rest, rfl⟩ := List.head?_eq_some_iff.mp first
  have blank : isBlank ' ' = true := by decide
  have sign : isBlank '=' = false := by decide
  have named := name.name?_append (d := ' ') (by decide +kernel) ('=' :: ' ' :: c :: rest)
  simp [assigned?, start.startsWord, named, spacedChar?, char?, skipBlanks, blank, sign, solid]

section

variable {α : Type} {read : Site → Option α}
  (assigns : ∀ site found, read site = some found → (assigned? site).isSome = true)
include assigns

theorem eq_none_of_assigned? {site : Site} (unassigned : assigned? site = none) :
    read site = none := by
  cases result : read site with
  | none => rfl
  | some found =>
    have assigned := assigns site found result
    rw [unassigned] at assigned
    cases assigned

theorem foundIn_of_noName {stretch : Text} (others : stretch.any isIdentifierStart = false)
    (behind tail : Text) : foundIn read behind stretch tail = [] :=
  foundIn_of_heads fun c member behind ahead =>
    eq_none_of_assigned? assigns
      (assigned?_of_head (eq_false_of_any others c member) behind ahead)

/-- What reads assignments only reads one of something silent at its first character or not at
all. -/
theorem foundIn_assignment (name : Identifier) {value tail : Text}
    (silent : ∀ behind, foundIn read behind value (';' :: tail) = []) (behind : Text) :
    foundIn read behind (name.text ++ (" = ".toList ++ (value ++ [';']))) tail =
      (read ⟨behind, name.text ++ (" = ".toList ++ (value ++ ';' :: tail))⟩).toList := by
  have first := name.foundIn_eq (fun c behind ahead word =>
    eq_none_of_assigned? assigns (assigned?_of_word word behind ahead))
    isWord_of_isIdentifierPart behind (" = ".toList ++ (value ++ [';']) ++ tail)
  rw [foundIn_append, first, foundIn_append, foundIn_of_noName assigns (by decide),
    foundIn_append, List.singleton_append, silent, foundIn_of_noName assigns (by decide)]
  simp

end

end QuestRecords.Source
