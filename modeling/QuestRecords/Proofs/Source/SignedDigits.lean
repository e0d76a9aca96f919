import Mathlib.Data.List.Induction
import Mathlib.Data.Nat.Digits.Defs
import QuestRecords.Proofs.Source.CutArguments
import QuestRecords.Proofs.Source.ListReaders
import QuestRecords.Source.Token

namespace QuestRecords.Source

open Text

/-- One ASCII digit or more. -/
def IsDigits (digits : Text) : Prop := digits ≠ [] ∧ ∀ c ∈ digits, c.isDigit = true

/-- The number that digits stand for: the last one counts once, the one before it ten times. -/
def placeValue (digits : Text) : Nat :=
  Nat.ofDigits 10 (digits.reverse.map fun c => c.toNat - '0'.toNat)

/-- Digits with an optional sign, and their number. -/
inductive SignedDigits : Text → Int → Prop where
  | bare (digits : IsDigits text) : SignedDigits text (placeValue text)
  | plus (digits : IsDigits text) : SignedDigits ('+' :: text) (placeValue text)
  | minus (digits : IsDigits text) : SignedDigits ('-' :: text) (-placeValue text)

def bareToken (token : Text) : Text := (trim token).filter (· != '_')

/-- A text with underscores put in anywhere. -/
inductive Underscored : Text → Text → Prop where
  | nil : Underscored [] []
  | kept (rest : Underscored text marked) : Underscored (c :: text) (c :: marked)
  | mark (rest : Underscored text marked) : Underscored text ('_' :: marked)

theorem digitsValue_eq (digits : Text) : digitsValue digits = placeValue digits := by
  induction digits using List.reverseRecOn with
  | nil => rfl
  | append_singleton digits c ih =>
    rw [digitsValue, List.foldl_concat, ← digitsValue, ih, placeValue, placeValue,
      List.reverse_concat, List.map_cons, Nat.ofDigits_cons]
    exact Nat.add_comm _ _

theorem natural?_eq_some_iff {text : Text} {value : Nat} :
    natural? text = some value ↔ IsDigits text ∧ placeValue text = value := by
  rw [natural?, Option.ite_none_right_eq_some, Option.some.injEq, digitsValue_eq, List.all_eq_true,
    IsDigits]

theorem isDigits_ne_sign {c : Char} {text : Text} (sign : c = '-' ∨ c = '+') :
    ¬ IsDigits (c :: text) := by
  rintro ⟨-, digits⟩
  have digit := digits c List.mem_cons_self
  rcases sign with rfl | rfl <;> exact absurd digit (by decide)

theorem signed?_eq_some_iff {text : Text} {value : Int} :
    signed? text = some value ↔ SignedDigits text value := by
  constructor
  · intro read
    rw [signed?.eq_def] at read
    split at read
    · rename_i digits
      obtain ⟨_, cast, rfl⟩ := Option.map_eq_some_iff.mp read
      obtain ⟨number, found, same⟩ := Option.bind_eq_some_iff.mp cast
      cases same
      obtain ⟨isDigits, rfl⟩ := natural?_eq_some_iff.mp found
      exact .minus isDigits
    · rename_i digits
      obtain ⟨number, found, rfl⟩ := Option.map_eq_some_iff.mp read
      obtain ⟨isDigits, rfl⟩ := natural?_eq_some_iff.mp found
      exact .plus isDigits
    · obtain ⟨number, found, rfl⟩ := Option.map_eq_some_iff.mp read
      obtain ⟨isDigits, rfl⟩ := natural?_eq_some_iff.mp found
      exact .bare isDigits
  · intro signed
    cases signed with
    | bare isDigits =>
      rw [signed?, natural?_eq_some_iff.mpr ⟨isDigits, rfl⟩]
      · rfl
      · rintro digits rfl
        exact isDigits_ne_sign (.inl rfl) isDigits
      · rintro digits rfl
        exact isDigits_ne_sign (.inr rfl) isDigits
    | plus isDigits =>
      rw [signed?, natural?_eq_some_iff.mpr ⟨isDigits, rfl⟩]
      rfl
    | minus isDigits =>
      rw [signed?, natural?_eq_some_iff.mpr ⟨isDigits, rfl⟩]
      rfl

theorem integer?_eq_some_iff {token : Text} {number : Int64} :
    integer? token = some number ↔ SignedDigits (bareToken token) number.toInt := by
  rw [integer?, Option.bind_eq_some_iff]
  constructor
  · rintro ⟨value, read, fits⟩
    rw [Amount.toInt_of_long? fits]
    exact signed?_eq_some_iff.mp read
  · intro signed
    exact ⟨_, signed?_eq_some_iff.mpr signed, Amount.long?_toInt number⟩

/-- A token is read as a number exactly when it stands for that number and the number fits. -/
theorem integer?_value_iff {token : Text} {value : Int} :
    (∃ number, integer? token = some number ∧ number.toInt = value) ↔
      SignedDigits (bareToken token) value ∧ -2 ^ 63 ≤ value ∧ value < 2 ^ 63 := by
  constructor
  · rintro ⟨number, read, rfl⟩
    exact ⟨integer?_eq_some_iff.mp read, number.le_toInt, number.toInt_lt⟩
  · rintro ⟨signed, low, high⟩
    have same : (Int64.ofInt value).toInt = value := Int64.toInt_ofInt_of_le low high
    exact ⟨Int64.ofInt value, integer?_eq_some_iff.mpr (same.symm ▸ signed), same⟩

example : (integer? "9_223_372_036_854_775_807".toList).map Int64.toInt = some (2 ^ 63 - 1) ∧
    integer? "9_223_372_036_854_775_808".toList = none := by decide

theorem head?_trim (text : Text) : (trim text).head?.any isBlank = false := by
  obtain ⟨rest, same⟩ : trim text <+: trimStart text := by
    rw [trim, trimEnd, ← List.reverse_suffix, List.reverse_reverse]
    exact List.dropWhile_suffix _
  cases trimmed : trim text with
  | nil => rfl
  | cons c inner =>
    have first := stops_dropWhile isBlank text
    rw [show text.dropWhile isBlank = trimStart text from rfl, ← same, trimmed] at first
    exact first

theorem trim_of_solid {text : Text} (first : text.head?.any isBlank = false)
    (last : text.getLast?.any isBlank = false) : trim text = text := by
  cases text with
  | nil => rfl
  | cons c rest =>
    rcases List.eq_nil_or_concat (c :: rest) with none | ⟨front, d, ends⟩
    · cases none
    · rw [List.concat_eq_append] at ends
      rw [ends, List.getLast?_concat] at last
      exact trim_eq_self rfl first ends last

namespace Underscored

variable {text marked : Text}

theorem filter_eq (marks : Underscored text marked) :
    marked.filter (· != '_') = text.filter (· != '_') := by
  induction marks with
  | nil => rfl
  | kept _ ih => rw [List.filter_cons, List.filter_cons, ih]
  | mark _ ih => exact ih

theorem append {other marked' : Text} (marks : Underscored text marked)
    (marks' : Underscored other marked') : Underscored (text ++ other) (marked ++ marked') := by
  induction marks with
  | nil => exact marks'
  | kept _ ih => exact .kept ih
  | mark _ ih => exact .mark ih

theorem reverse (marks : Underscored text marked) : Underscored text.reverse marked.reverse := by
  induction marks with
  | nil => exact .nil
  | kept _ ih =>
    rw [List.reverse_cons, List.reverse_cons]
    exact ih.append (.kept .nil)
  | mark _ ih =>
    rw [List.reverse_cons]
    simpa using ih.append (.mark .nil)

theorem head?_solid (marks : Underscored text marked) (solid : text.head?.any isBlank = false) :
    marked.head?.any isBlank = false := by
  cases marks with
  | nil => rfl
  | kept _ => exact solid
  | mark _ => rfl

theorem trim_eq (marks : Underscored (trim text) marked) : trim marked = marked := by
  apply trim_of_solid
  · exact marks.head?_solid (head?_trim text)
  · rw [← List.head?_reverse]
    apply marks.reverse.head?_solid
    rw [List.head?_reverse]
    exact ListLiteral.getLast?_trim text

end Underscored

/-- Neither underscores inside of a token nor blanks around it change what is read. -/
theorem integer?_underscored {token marked padded : Text}
    (marks : Underscored (trim token) marked) (around : Padded marked padded) :
    integer? padded = integer? token := by
  rw [integer?, around.trim_eq, marks.trim_eq, marks.filter_eq, integer?]

end QuestRecords.Source
