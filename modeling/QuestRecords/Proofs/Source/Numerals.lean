import QuestRecords.Proofs.Source.WrittenArguments
import QuestRecords.Source.Token

namespace QuestRecords.Source

open Text

def numeral (value : Int) : Text := (toString value).toList

theorem numeral_natCast (value : Nat) : numeral value = Nat.toDigits 10 value :=
  Nat.toList_repr

theorem numeral_negSucc (value : Nat) :
    numeral (Int.negSucc value) = '-' :: Nat.toDigits 10 (value + 1) := by
  have written : toString (Int.negSucc value) = "-" ++ Nat.repr (value + 1) := rfl
  rw [numeral, written, String.toList_append, Nat.toList_repr]
  rfl

theorem isDigit_of_mem_numeral {value : Int} {c : Char} (member : c ∈ numeral value) :
    c.isDigit = true ∨ c = '-' := by
  have digit : ∀ {n}, c ∈ Nat.toDigits 10 n → c.isDigit = true :=
    Nat.isDigit_of_mem_toDigits (by decide) (Nat.le_refl 10)
  cases value with
  | ofNat n =>
    rw [Int.ofNat_eq_natCast, numeral_natCast] at member
    exact .inl (digit member)
  | negSucc n =>
    rw [numeral_negSucc] at member
    rcases List.mem_cons.mp member with rfl | later
    · exact .inr rfl
    · exact .inl (digit later)

theorem test_of_mem_numeral (test : Char → Bool) (minus : test '-' = true)
    (digits : ∀ code < 128, isIdentifierPart (Char.ofNat code) = true →
      (!(Char.ofNat code).isDigit || test (Char.ofNat code)) = true) {value : Int} {c : Char}
    (member : c ∈ numeral value) : test c = true := by
  rcases isDigit_of_mem_numeral member with digit | rfl
  · have part : isIdentifierPart c = true := by
      simp [isIdentifierPart, Char.isAlphanum, digit]
    have passes := test_of_isIdentifierPart (fun d => !d.isDigit || test d) digits part
    simpa [digit] using passes
  · exact minus

theorem not_mem_numeral (value : Int) {c : Char} (minus : c ≠ '-')
    (other : isIdentifierPart c = false) : c ∉ numeral value := by
  intro member
  rcases isDigit_of_mem_numeral member with digit | same
  · simp [isIdentifierPart, Char.isAlphanum, digit] at other
  · exact minus same

theorem numeral_ne_nil (value : Int) : numeral value ≠ [] := by
  cases value with
  | ofNat n =>
    rw [Int.ofNat_eq_natCast, numeral_natCast]
    exact Nat.toDigits_ne_nil
  | negSucc n => simp [numeral_negSucc]

theorem SoleArgument.of_numeral (value : Int) : SoleArgument (numeral value) := by
  apply SoleArgument.of_solid (numeral_ne_nil value)
  · apply List.all_eq_true.mpr
    intro c member
    exact test_of_mem_numeral isFlat (by decide) (by decide) member
  · intro c member
    have solid : (!isBlank c) = true :=
      test_of_mem_numeral (!isBlank ·) (by decide) (by decide) member
    simpa using solid

theorem natural?_toDigits (value : Nat) : natural? (Nat.toDigits 10 value) = some value := by
  have digits : (Nat.toDigits 10 value).all Char.isDigit = true := by
    apply List.all_eq_true.mpr
    intro c member
    exact Nat.isDigit_of_mem_toDigits (by decide) (Nat.le_refl 10) member
  have same : digitsValue (Nat.toDigits 10 value) = Nat.ofDigitChars 10 (Nat.toDigits 10 value) 0 :=
    Nat.ofDigitChars_eq_foldl.symm
  rw [natural?, if_pos ⟨Nat.toDigits_ne_nil, digits⟩, same, Nat.ofDigitChars_ten_toDigits]

theorem signed?_numeral (value : Int) : signed? (numeral value) = some value := by
  cases value with
  | ofNat n =>
    have first : ∀ {c rest}, numeral n = c :: rest → c.isDigit = true := by
      intro c rest same
      rw [numeral_natCast] at same
      exact Nat.isDigit_of_mem_toDigits (by decide) (Nat.le_refl 10)
        (same ▸ List.mem_cons_self)
    rw [Int.ofNat_eq_natCast, signed?]
    · rw [numeral_natCast, natural?_toDigits]
      rfl
    · intro rest same
      exact absurd (first same) (by decide)
    · intro rest same
      exact absurd (first same) (by decide)
  | negSucc n =>
    rw [numeral_negSucc, signed?, natural?_toDigits]
    rfl

theorem integer?_numeral (value : Int) : integer? (numeral value) = Amount.long? value := by
  have kept : (numeral value).filter (· != '_') = numeral value := by
    apply List.filter_eq_self.mpr
    intro c member
    exact test_of_mem_numeral (· != '_') (by decide) (by decide) member
  rw [integer?, (SoleArgument.of_numeral value).trim_eq, kept, signed?_numeral, Option.bind_some]

theorem coordinate_numeral (coordinate : Int32) :
    ((integer? (numeral coordinate.toInt)).bind fun value => Amount.int? value.toInt) =
      some coordinate := by
  have low := coordinate.le_toInt
  have high := coordinate.toInt_lt
  have least : Int64.minValue.toInt = -2 ^ 63 := rfl
  have most : Int64.maxValue.toInt = 2 ^ 63 - 1 := rfl
  obtain ⟨amount, fits⟩ : ∃ amount, Amount.long? coordinate.toInt = some amount :=
    ⟨_, if_pos ⟨by omega, by omega⟩⟩
  rw [integer?_numeral, fits, Option.bind_some, Amount.toInt_of_long? fits, Amount.int?_toInt]

end QuestRecords.Source
