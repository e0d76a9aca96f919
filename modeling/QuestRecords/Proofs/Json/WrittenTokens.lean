import QuestRecords.Json.Parser
import QuestRecords.Json.Printer
import QuestRecords.Proofs.Text.Spans

namespace QuestRecords.Json

open Text

namespace Token

theorem lex?_of_next? {c : Char} {rest after : Text} {token : Token} (visible : isSpace c = false)
    (read : next? c rest = some (token, after)) :
    lex? (c :: rest) = (lex? after).map (token :: ·) := by
  rw [lex?, if_neg (by simp [visible])]
  split
  · rename_i none
    cases none.symm.trans read
  · rename_i other left found
    cases found.symm.trans read
    rfl

theorem lex?_of_space {c : Char} {rest : Text} (space : isSpace c = true) :
    lex? (c :: rest) = lex? rest := by
  rw [lex?, if_pos space]

/-- A text that a number before it does not go on with. -/
def Apart (text : Text) : Prop :=
  text.head?.any (fun c => c.isDigit || c == '.' || c == 'e' || c == 'E') = false

/-- A text has some tokens, whatever stands behind it apart. -/
def Spells (text : Text) (tokens : List Token) : Prop :=
  ∀ rest, Apart rest → lex? (text ++ rest) = (lex? rest).map (tokens ++ ·)

theorem Apart.append {text rest : Text} (first : Apart text) (later : Apart rest) :
    Apart (text ++ rest) := by
  cases text with
  | nil => exact later
  | cons c text => exact first

namespace Spells

variable {text more : Text} {tokens others : List Token} {c : Char} {token : Token}

theorem lex?_eq (spells : Spells text tokens) : lex? text = some tokens := by
  have read := spells [] rfl
  rw [lex?] at read
  simpa using read

theorem nil : Spells [] [] := by
  intro rest _
  simp

theorem append (first : Spells text tokens) (apart : Apart more) (later : Spells more others) :
    Spells (text ++ more) (tokens ++ others) := by
  intro rest behind
  rw [List.append_assoc, first _ (apart.append behind), later rest behind, Option.map_map]
  simp [Function.comp_def]

theorem of_next? (visible : isSpace c = false)
    (read : ∀ rest, Apart rest → next? c (text ++ rest) = some (token, rest)) :
    Spells (c :: text) [token] := by
  intro rest apart
  rw [List.cons_append, lex?_of_next? visible (read rest apart)]
  rfl

theorem space (space : isSpace c = true) (spells : Spells text tokens) :
    Spells (c :: text) tokens := by
  intro rest apart
  rw [List.cons_append, lex?_of_space space, spells rest apart]

theorem newLine (level : Nat) (spells : Spells text tokens) :
    Spells (newLine level ++ text) tokens := by
  have blanks (count : Nat) : Spells (List.replicate count ' ' ++ text) tokens := by
    induction count with
    | zero => exact spells
    | succ count ih => exact ih.space rfl
  exact (blanks (2 * level)).space rfl

theorem punctuation (mark : punctuation? c = some token) (spells : Spells text tokens) :
    Spells (c :: text) (token :: tokens) := by
  have visible : isSpace c = false := by
    cases space : isSpace c with
    | false => rfl
    | true =>
      simp only [isSpace, Bool.or_eq_true, beq_iff_eq] at space
      rcases space with ((rfl | rfl) | rfl) | rfl <;> cases mark
  intro rest apart
  have read : next? c (text ++ rest) = some (token, text ++ rest) := by rw [next?, mark]
  rw [List.cons_append, lex?_of_next? visible read, spells rest apart, Option.map_map]
  rfl

end Spells

section

variable {c : Char} {rest after : Text} {parts : List Part} {spelled : Text}

theorem spell?_unit {value : Nat} (narrow : value < 0x20) (parts : List Part) :
    spell? (.unit value :: parts) = (spell? parts).map (Char.ofNat value :: ·) := by
  have high : isHighSurrogate value = false := by
    simp only [isHighSurrogate, Bool.and_eq_false_iff, decide_eq_false_iff_not]
    omega
  have low : isLowSurrogate value = false := by
    simp only [isLowSurrogate, Bool.and_eq_false_iff, decide_eq_false_iff_not]
    omega
  cases parts with
  | nil => simp [spell?, high, low]
  | cons part parts => cases part <;> simp [spell?, high, low]

theorem hexUnit?_hexFour : ∀ value < 0x20, (match hexFour value with
    | [a, b, c, d] => hexUnit? a b c d
    | _ => none) = some value := by
  decide

theorem parts?_escaped {d : Char} (other : d ≠ 'u') (stands : escaped? d = some c)
    (read : parts? rest = some (parts, after)) :
    parts? ('\\' :: d :: rest) = some (.char c :: parts, after) := by
  rw [parts?]
  · simp [stands, read]
  · rintro a b c d rest ⟨⟩
    exact absurd rfl other

/-- A character in quotes is escaped by one more character or by its number, or stands for
itself. -/
theorem escapeChar_cases (c : Char) :
    (∃ d, d ≠ 'u' ∧ escaped? d = some c ∧ escapeChar c = ['\\', d]) ∨
      (c.toNat < 0x20 ∧ escapeChar c = '\\' :: 'u' :: hexFour c.toNat) ∨
      (c ≠ '"' ∧ c ≠ '\\' ∧ 0x20 ≤ c.toNat ∧ escapeChar c = [c]) := by
  fun_cases escapeChar c with
  | case1 same => exact .inl ⟨'"', by decide, by rw [same]; rfl, rfl⟩
  | case2 _ same => exact .inl ⟨'\\', by decide, by rw [same]; rfl, rfl⟩
  | case3 _ _ same => exact .inl ⟨'b', by decide, same ▸ rfl, rfl⟩
  | case4 _ _ _ same => exact .inl ⟨'f', by decide, same ▸ rfl, rfl⟩
  | case5 _ _ _ _ same => exact .inl ⟨'n', by decide, same ▸ rfl, rfl⟩
  | case6 _ _ _ _ _ same => exact .inl ⟨'r', by decide, same ▸ rfl, rfl⟩
  | case7 _ _ _ _ _ _ same => exact .inl ⟨'t', by decide, same ▸ rfl, rfl⟩
  | case8 _ _ _ _ _ _ _ control => exact .inr (.inl ⟨control, rfl⟩)
  | case9 quote backslash _ _ _ _ _ visible =>
    exact .inr (.inr ⟨quote, backslash, Nat.le_of_not_lt visible, rfl⟩)

theorem parts?_escapeChar (c : Char) (read : parts? rest = some (parts, after)) :
    ∃ part, parts? (escapeChar c ++ rest) = some (part :: parts, after) ∧
      spell? (part :: parts) = (spell? parts).map (c :: ·) := by
  rcases escapeChar_cases c with
    ⟨d, other, stands, written⟩ | ⟨control, written⟩ | ⟨quote, backslash, visible, written⟩
  · rw [written]
    exact ⟨.char c, parts?_escaped other stands read, rfl⟩
  · refine ⟨.unit c.toNat, ?_, ?_⟩
    · have digits := hexUnit?_hexFour c.toNat control
      rw [written]
      split at digits
      · rename_i four
        rw [four, List.cons_append, List.cons_append, List.cons_append, List.cons_append,
          List.cons_append, List.cons_append, List.nil_append, parts?, digits, read]
        rfl
      · cases digits
    · rw [spell?_unit control, Char.ofNat_toNat]
  · refine ⟨.char c, ?_, rfl⟩
    rw [written, List.singleton_append, parts?]
    · simp [read, backslash, Nat.not_lt.mpr visible]
    · exact quote
    · intro a b c d rest same
      exact absurd same backslash
    · intro d rest same
      exact absurd same backslash

theorem exists_parts (value : Text) (rest : Text) :
    ∃ parts, parts? (value.flatMap escapeChar ++ '"' :: rest) = some (parts, rest) ∧
      spell? parts = some value := by
  induction value with
  | nil => exact ⟨[], rfl, rfl⟩
  | cons c value ih =>
    obtain ⟨parts, read, spelled⟩ := ih
    obtain ⟨part, whole, spell⟩ := parts?_escapeChar c read
    refine ⟨part :: parts, ?_, by rw [spell, spelled, Option.map_some]⟩
    rw [List.flatMap_cons, List.append_assoc]
    exact whole

end

theorem Spells.quote (value : String) : Spells (quote value) [.text (some value)] := by
  rw [Json.quote, List.cons_append]
  apply Spells.of_next? rfl
  intro rest _
  obtain ⟨parts, read, spelled⟩ := exists_parts value.toList rest
  have plain : punctuation? '"' = none := by decide
  rw [List.append_assoc, List.singleton_append, next?, plain]
  dsimp only
  rw [scalar?, if_pos rfl, read, Option.map_some]
  dsimp only
  rw [spelled, Option.map_some, String.ofList_toList]

theorem Spells.word {c : Char} {word : Text} {value : Json}
    (scalar : ∀ rest, scalar? c rest = (after? word rest).map (.scalar value, ·))
    (visible : isSpace c = false) (plain : punctuation? c = none) :
    Spells (c :: word) [.scalar value] := by
  apply Spells.of_next? visible
  intro rest _
  rw [next?, plain]
  dsimp only
  rw [scalar, after?_eq_some_iff.mpr rfl, Option.map_some]

end Token

def digitsFrom (number : Nat) (digits : List Nat) : Nat :=
  digits.foldl (fun value digit => 10 * value + digit) number

theorem le_digitsFrom (number : Nat) (digits : List Nat) : number ≤ digitsFrom number digits := by
  induction digits generalizing number with
  | nil => exact Nat.le_refl number
  | cons digit digits ih =>
    have later := ih (10 * number + digit)
    rw [digitsFrom, List.foldl_cons]
    rw [digitsFrom] at later
    omega

/-- Digits whose value is within the limit are all taken. -/
theorem Literal.accumulate_of_le {digits : List Nat} {significand taken : Nat}
    (fits : digitsFrom significand digits ≤ significandLimit) :
    accumulate significand taken digits =
      (digitsFrom significand digits, taken + digits.length) := by
  induction digits generalizing significand taken with
  | nil => rfl
  | cons digit digits ih =>
    have first := Nat.le_trans (le_digitsFrom (10 * significand + digit) digits) fits
    rw [accumulate, if_pos first, ih fits, List.length_cons, Nat.add_right_comm, Nat.add_assoc]
    rfl

namespace Token

theorem isDigit_of_mem_toDigits (value : Nat) :
    ∀ c ∈ Nat.toDigits 10 value, c.isDigit = true :=
  fun _ => Nat.isDigit_of_mem_toDigits (by decide) (Nat.le_refl 10)

theorem digitsFrom_toDigits (value : Nat) :
    digitsFrom 0 (digitValues (Nat.toDigits 10 value)) = value := by
  rw [digitsFrom, digitValues, List.foldl_map, ← Nat.ofDigitChars_eq_foldl,
    Nat.ofDigitChars_ten_toDigits]

theorem head?_toDigits {value : Nat} (positive : value ≠ 0) :
    (Nat.toDigits 10 value).head? ≠ some '0' := by
  induction value using Nat.strongRecOn with
  | ind value ih =>
    by_cases single : value < 10
    · have digits : ∀ digit < 10, digit ≠ 0 → [digit.digitChar].head? ≠ some '0' := by decide
      rw [Nat.toDigits_of_lt_base single]
      exact digits value single positive
    · have several := Nat.le_of_not_lt single
      obtain ⟨c, leading, same⟩ :=
        List.exists_cons_of_ne_nil (Nat.toDigits_ne_nil (b := 10) (n := value / 10))
      have first := ih (value / 10) (by omega) (by omega)
      rw [same] at first
      rw [Nat.toDigits_of_base_le (by decide) several, same]
      exact first

theorem whole?_toDigits (value : Nat) {rest : Text} (ends : rest.head?.any Char.isDigit = false) :
    whole? (Nat.toDigits 10 value ++ rest) = some (digitValues (Nat.toDigits 10 value), rest) := by
  have digits := isDigit_of_mem_toDigits value
  have read : digits? (Nat.toDigits 10 value ++ rest) =
      some (digitValues (Nat.toDigits 10 value), rest) := by
    rw [digits?, takeWhile_append digits ends, dropWhile_append digits ends]
    exact if_neg Nat.toDigits_ne_nil
  rw [whole?, read, Option.filter_some, if_pos]
  rw [decide_eq_true_iff]
  by_cases zero : value = 0
  · subst zero
    exact .inr rfl
  · left
    cases leading : Nat.toDigits 10 value with
    | nil => exact absurd leading Nat.toDigits_ne_nil
    | cons c others =>
      have nonzero := head?_toDigits zero
      have isDigit : c.isDigit = true :=
        digits c (leading ▸ List.mem_cons_self)
      rw [leading] at nonzero
      intro same
      apply nonzero
      have code : c.toNat = '0'.toNat := by
        have low := (Char.isDigit_iff_toNat.mp isDigit).1
        have least : c.toNat - '0'.toNat = 0 := Option.some.inj same
        omega
      rw [← Char.ofNat_toNat c, code]
      rfl

theorem unsigned?_toDigits (negative : Bool) (value : Nat) {rest : Text} (apart : Apart rest) :
    unsigned? negative (Nat.toDigits 10 value ++ rest) =
      some (⟨negative, digitValues (Nat.toDigits 10 value), [], false, none⟩, rest) := by
  obtain ⟨ends, fraction, exponent⟩ : rest.head?.any Char.isDigit = false ∧
      fraction? rest = some ([], false, rest) ∧ exponent? rest = some (none, rest) := by
    cases rest with
    | nil => exact ⟨rfl, rfl, rfl⟩
    | cons c rest =>
      have other : (c.isDigit || c == '.' || c == 'e' || c == 'E') = false := apart
      simp only [Bool.or_eq_false_iff, beq_eq_false_iff_ne] at other
      obtain ⟨⟨⟨digit, point⟩, lower⟩, upper⟩ := other
      refine ⟨digit, ?_, ?_⟩
      · rw [fraction?]
        rintro _ ⟨⟩
        exact point rfl
      · rw [exponent?.eq_def]
        exact if_neg (not_or.mpr ⟨lower, upper⟩)
  rw [unsigned?, whole?_toDigits value ends]
  simp [fraction, exponent]

end Token

theorem Literal.value?_whole {value : Int} (above : Int64.minValue.toInt ≤ value)
    (below : value ≤ significandLimit) :
    value? ⟨value < 0, Token.digitValues (Nat.toDigits 10 value.natAbs), [], false, none⟩ =
      some (.whole value) := by
  have limit : value.natAbs ≤ significandLimit := by
    have least : Int64.minValue.toInt = -2 ^ 63 := rfl
    have most : significandLimit = 2 ^ 64 - 1 := rfl
    omega
  have taken : accumulate 0 0 (Token.digitValues (Nat.toDigits 10 value.natAbs)) =
      (value.natAbs, (Token.digitValues (Nat.toDigits 10 value.natAbs)).length) := by
    rw [accumulate_of_le (by rw [Token.digitsFrom_toDigits]; exact limit),
      Token.digitsFrom_toDigits, Nat.zero_add]
  rw [value?, taken]
  dsimp only
  rw [if_pos ⟨rfl, rfl, rfl⟩]
  by_cases negative : value < 0
  · have magnitude : -(value.natAbs : Int) = value := by omega
    have positive : 0 < value.natAbs := by omega
    rw [if_neg (by simp [negative]), if_pos ⟨positive, by rw [magnitude]; exact above⟩, magnitude]
  · have magnitude : (value.natAbs : Int) = value := by omega
    rw [if_pos (by simp [negative]), magnitude]

namespace Token

theorem next?_of_digit {c : Char} (digit : c.isDigit = true) (rest : Text) :
    next? c rest = (unsigned? false (c :: rest)).map fun (literal, after) =>
      (ofLiteral literal, after) := by
  have other : ∀ d, d.isDigit = false → c ≠ d := by
    rintro _ none rfl
    rw [digit] at none
    cases none
  have literal : literal? (c :: rest) = unsigned? false (c :: rest) := by
    rw [literal?]
    rintro _ ⟨⟩
    exact other '-' rfl rfl
  have plain : punctuation? c = none := by
    rw [punctuation?, if_neg (other _ rfl), if_neg (other _ rfl), if_neg (other _ rfl),
      if_neg (other _ rfl), if_neg (other _ rfl), if_neg (other _ rfl)]
  rw [next?, plain]
  dsimp only
  rw [scalar?, if_neg (other _ rfl), if_neg (other _ rfl), if_neg (other _ rfl),
    if_neg (other _ rfl), literal]

theorem isSpace_of_digit {c : Char} (digit : c.isDigit = true) : isSpace c = false := by
  cases space : isSpace c with
  | false => rfl
  | true =>
    simp only [isSpace, Bool.or_eq_true, beq_iff_eq] at space
    rcases space with ((rfl | rfl) | rfl) | rfl <;> cases digit

theorem Spells.writeInt {value : Int} (above : Int64.minValue.toInt ≤ value)
    (below : value ≤ Literal.significandLimit) :
    Spells (writeInt value) [.scalar (.number (.whole value))] := by
  have ofLiteral_eq : ofLiteral ⟨value < 0, digitValues (Nat.toDigits 10 value.natAbs), [], false,
      none⟩ = .scalar (.number (.whole value)) := by
    rw [ofLiteral, Literal.value?_whole above below]
  rw [Json.writeInt]
  by_cases negative : value < 0
  · rw [if_pos negative]
    apply Spells.of_next? rfl
    intro rest apart
    have read : next? '-' (Nat.toDigits 10 value.natAbs ++ rest) =
        (unsigned? true (Nat.toDigits 10 value.natAbs ++ rest)).map fun (literal, after) =>
          (ofLiteral literal, after) := rfl
    rw [decide_eq_true negative] at ofLiteral_eq
    rw [read, unsigned?_toDigits true _ apart, Option.map_some]
    dsimp only
    rw [ofLiteral_eq]
  · rw [if_neg negative]
    cases leading : Nat.toDigits 10 value.natAbs with
    | nil => exact absurd leading Nat.toDigits_ne_nil
    | cons c digits =>
      have digit : c.isDigit = true :=
        isDigit_of_mem_toDigits value.natAbs c (leading ▸ List.mem_cons_self)
      apply Spells.of_next? (isSpace_of_digit digit)
      intro rest apart
      rw [decide_eq_false negative] at ofLiteral_eq
      rw [next?_of_digit digit, ← List.cons_append, ← leading, unsigned?_toDigits false _ apart,
        Option.map_some]
      dsimp only
      rw [ofLiteral_eq]

end Token
end QuestRecords.Json
