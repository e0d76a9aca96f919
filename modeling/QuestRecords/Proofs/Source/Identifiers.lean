import QuestRecords.Proofs.Text.Stretches
import QuestRecords.Source.Reader
import QuestRecords.Source.Token

namespace QuestRecords.Source

open Text Reader

structure Identifier where
  text : Text
  valid : isIdentifier text = true
  deriving DecidableEq

theorem toNat_lt_of_isIdentifierPart {c : Char} (part : isIdentifierPart c = true) :
    c.toNat < 128 := by
  have below : ∀ {last : Char}, last.toNat < 128 → c.val ≤ last.val → c.toNat < 128 :=
    fun ascii ordered => Nat.lt_of_le_of_lt (UInt32.le_iff_toNat_le.mp ordered) ascii
  have shown : isIdentifierPart c = (((c.isUpper || c.isLower) || c.isDigit) || c == '_') := rfl
  rw [shown, Bool.or_eq_true, Bool.or_eq_true, Bool.or_eq_true, beq_iff_eq] at part
  rcases part with ((upper | lower) | digit) | rfl
  · exact below (by decide) (of_decide_eq_true upper).2
  · exact below (by decide) (of_decide_eq_true (Bool.and_eq_true_iff.mp lower).2)
  · exact below (by decide) (of_decide_eq_true (Bool.and_eq_true_iff.mp digit).2)
  · decide

/-- A test of the characters of identifiers is one of ASCII characters. -/
theorem test_of_isIdentifierPart (test : Char → Bool)
    (passes : ∀ code < 128, isIdentifierPart (Char.ofNat code) = true →
      test (Char.ofNat code) = true) {c : Char} (part : isIdentifierPart c = true) :
    test c = true := by
  have known := passes c.toNat (toNat_lt_of_isIdentifierPart part)
  rw [Char.ofNat_toNat] at known
  exact known part

theorem isWord_of_isIdentifierPart {c : Char} (part : isIdentifierPart c = true) :
    isWord c = true :=
  test_of_isIdentifierPart isWord (by decide) part

theorem isGap_of_isIdentifierPart {c : Char} (part : isIdentifierPart c = true) :
    isGap c = false := by
  have apart := test_of_isIdentifierPart (!isGap ·) (by decide) part
  simpa using apart

theorem isBlank_of_isIdentifierPart {c : Char} (part : isIdentifierPart c = true) :
    isBlank c = false := by
  have apart := test_of_isIdentifierPart (!isBlank ·) (by decide) part
  simpa using apart

theorem isIdentifierPart_of_isIdentifierStart {c : Char} (start : isIdentifierStart c = true) :
    isIdentifierPart c = true := by
  simp only [isIdentifierStart, isIdentifierPart, Char.isAlphanum, Bool.or_eq_true] at *
  exact start.imp_left Or.inl

namespace Identifier

variable (identifier : Identifier)

def name : String := String.ofList identifier.text

theorem exists_cons :
    ∃ c rest, identifier.text = c :: rest ∧ isIdentifierStart c = true ∧
      ∀ d ∈ rest, isIdentifierPart d = true := by
  obtain ⟨text, valid⟩ := identifier
  cases text with
  | nil => cases valid
  | cons c rest =>
    obtain ⟨start, parts⟩ := Bool.and_eq_true_iff.mp valid
    exact ⟨c, rest, rfl, start, List.all_eq_true.mp parts⟩

theorem part_of_mem : ∀ c ∈ identifier.text, isIdentifierPart c = true := by
  obtain ⟨c, rest, same, start, parts⟩ := identifier.exists_cons
  rw [same]
  exact List.forall_mem_cons.mpr ⟨isIdentifierPart_of_isIdentifierStart start, parts⟩

theorem not_mem {c : Char} (other : isIdentifierPart c = false) : c ∉ identifier.text := by
  intro member
  simp [identifier.part_of_mem c member] at other

theorem name_injective {left right : Identifier} (same : left.name = right.name) :
    left = right := by
  obtain ⟨text, valid⟩ := left
  obtain ⟨other, valid'⟩ := right
  cases String.ofList_injective same
  rfl

/-- An identifier is read whole before a character that is no word character. -/
theorem name?_append {d : Char} (ends : isWord d = false) (tail : Text) :
    name? (identifier.text ++ d :: tail) = some (identifier.text, d :: tail) := by
  obtain ⟨c, rest, same, start, parts⟩ := identifier.exists_cons
  have words : ∀ e ∈ rest, isWord e = true := fun e member =>
    isWord_of_isIdentifierPart (parts e member)
  have letter : (c.isAlpha || c == '_') = true := start
  rw [same, List.cons_append, name?, nameOf?, if_pos letter,
    List.takeWhile_append_of_pos words, List.dropWhile_append_of_pos words,
    List.takeWhile_cons_of_neg (by simp [ends]), List.dropWhile_cons_of_neg (by simp [ends]),
    List.append_nil]

/-- A reader that wants a word to start reads an identifier at its first character only. -/
theorem foundIn_eq {α : Type} {read : Site → Option α} {goesOn : Char → Bool}
    (starts : ∀ c behind ahead, goesOn c = true → read ⟨c :: behind, ahead⟩ = none)
    (parts : ∀ {c}, isIdentifierPart c = true → goesOn c = true) (behind tail : Text) :
    foundIn read behind identifier.text tail =
      (read ⟨behind, identifier.text ++ tail⟩).toList := by
  obtain ⟨c, rest, same, -, -⟩ := identifier.exists_cons
  have inside : foundIn read (c :: behind) rest tail = [] := by
    apply foundIn_eq_nil
    intro before d after split
    have among : ∀ e ∈ c :: before, goesOn e = true := by
      intro e member
      apply parts
      apply identifier.part_of_mem
      rw [same, split]
      exact List.mem_append_left (d :: after) member
    cases turned : before.reverse with
    | nil => exact starts c _ _ (among c List.mem_cons_self)
    | cons e front =>
      apply starts e
      apply among
      apply List.mem_cons_of_mem
      rw [← List.mem_reverse, turned]
      exact List.mem_cons_self
  rw [same, foundIn, inside, List.append_nil, List.cons_append]

end Identifier
end QuestRecords.Source
