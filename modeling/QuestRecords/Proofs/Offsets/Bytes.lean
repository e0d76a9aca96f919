import QuestRecords.Proofs.Text.Split

/-! The bytes of a text. A scan over bytes tests for ASCII characters only, so it cannot tell the
bytes of a longer character apart: each of them shows no ASCII character. A scan that passes over
one of them therefore passes over the rest of the character as well, wherever it came in. -/
namespace QuestRecords.Offsets

open Text

/-- The UTF-8 form of a text. -/
def bytes (text : Text) : List UInt8 := text.flatMap String.utf8EncodeChar

/-- The byte at an offset; there is none at the end of the text or behind it. -/
def byte? (text : Text) (offset : Nat) : Option UInt8 := (bytes text)[offset]?

/-- The ASCII character that a byte stands for; a byte of a longer character stands for none. -/
def ascii? (byte : UInt8) : Option Char :=
  if byte < 0x80 then some (Char.ofUInt8 byte) else none

/-- What every byte of a character stands for: the character itself when it is its only byte. -/
def shown? (c : Char) : Option Char := if c.utf8Size = 1 then some c else none

/-- Whether an offset holds an ASCII character that passes a test. -/
def shows (test : Char → Bool) (text : Text) (offset : Nat) : Bool :=
  ((byte? text offset).bind ascii?).any test

/-- Whether an offset holds an ASCII character. -/
def holds (text : Text) (offset : Nat) (c : Char) : Bool := shows (· == c) text offset

@[simp] theorem bytes_cons (c : Char) (text : Text) :
    bytes (c :: text) = String.utf8EncodeChar c ++ bytes text := rfl

@[simp] theorem bytes_append (left right : Text) :
    bytes (left ++ right) = bytes left ++ bytes right :=
  List.flatMap_append

@[simp] theorem length_bytes (text : Text) : (bytes text).length = width text := by
  induction text with
  | nil => rfl
  | cons c text ih => simp [ih]

theorem shown?_eq_some_iff {c shown : Char} :
    shown? c = some shown ↔ c = shown ∧ c.utf8Size = 1 := by
  unfold shown?
  split <;> simp_all

theorem shown?_ne {c other : Char} (different : c ≠ other) : shown? c ≠ some other :=
  fun same => different (shown?_eq_some_iff.mp same).1

theorem shown?_of_narrow {c : Char} (narrow : c.utf8Size = 1) : shown? c = some c :=
  if_pos narrow

/-! The brackets and quotes that scans look for are single bytes. -/

@[simp] theorem utf8Size_openParen : '('.utf8Size = 1 := rfl

@[simp] theorem utf8Size_closeParen : ')'.utf8Size = 1 := rfl

@[simp] theorem utf8Size_openBrace : '\x7b'.utf8Size = 1 := rfl

@[simp] theorem utf8Size_quote : '"'.utf8Size = 1 := rfl

@[simp] theorem utf8Size_escape : '\\'.utf8Size = 1 := rfl

theorem toNat_ofUInt8 (byte : UInt8) : (Char.ofUInt8 byte).toNat = byte.toNat :=
  UInt8.toNat_toUInt32 byte

theorem ascii?_of_high {value : Nat} (above : 0x80 ≤ value) (fits : value < 0x100) :
    ascii? (UInt8.ofNat value) = none := by
  have large : ¬ UInt8.ofNat value < 0x80 := by
    rw [UInt8.lt_iff_toNat_lt, UInt8.toNat_ofNat_of_lt' fits]
    exact Nat.not_lt.mpr above
  rw [ascii?, if_neg large]

/-- The first byte of a character and all others show the same. -/
theorem ascii?_of_mem {c : Char} {byte : UInt8} (member : byte ∈ String.utf8EncodeChar c) :
    ascii? byte = shown? c := by
  by_cases narrow : c.utf8Size = 1
  · have small : c.toNat < 0x80 := by
      have := Char.utf8Size_eq_one_iff.mp narrow
      rw [UInt32.le_iff_toNat_le] at this
      exact Nat.lt_succ_of_le this
    have same : byte = UInt8.ofNat c.toNat := by
      rw [String.utf8EncodeChar_eq_singleton narrow] at member
      exact List.mem_singleton.mp member
    have value : byte.toNat = c.toNat := by
      rw [same]
      exact UInt8.toNat_ofNat_of_lt' (Nat.lt_of_lt_of_le small (by decide))
    have low : byte < 0x80 := by
      rw [UInt8.lt_iff_toNat_lt, value]
      exact small
    have shown : Char.ofUInt8 byte = c := Char.toNat_inj.mp ((toNat_ofUInt8 byte).trans value)
    rw [ascii?, if_pos low, shown, shown?_of_narrow narrow]
  · rw [shown?, if_neg narrow]
    have long : ¬ c.val.toNat ≤ 0x7f := by
      intro small
      exact narrow (Char.utf8Size_eq_one_iff.mpr (UInt32.le_iff_toNat_le.mpr small))
    unfold String.utf8EncodeChar at member
    simp only [if_neg long] at member
    have high : ∀ {value low size : Nat}, 0 < size → 0x80 ≤ low → low + size ≤ 0x100 →
        byte = UInt8.ofNat (value % size + low) → ascii? byte = none := by
      intro value low size positive above fits same
      have := Nat.mod_lt value positive
      rw [same]
      exact ascii?_of_high (by omega) (by omega)
    split at member
    · simp only [List.mem_cons, List.not_mem_nil, or_false] at member
      rcases member with first | second
      · exact high (by decide) (by decide) (by decide) first
      · exact high (by decide) (by decide) (by decide) second
    · split at member
      · simp only [List.mem_cons, List.not_mem_nil, or_false] at member
        rcases member with first | second | third
        · exact high (by decide) (by decide) (by decide) first
        · exact high (by decide) (by decide) (by decide) second
        · exact high (by decide) (by decide) (by decide) third
      · simp only [List.mem_cons, List.not_mem_nil, or_false] at member
        rcases member with first | second | third | fourth
        · exact high (by decide) (by decide) (by decide) first
        · exact high (by decide) (by decide) (by decide) second
        · exact high (by decide) (by decide) (by decide) third
        · exact high (by decide) (by decide) (by decide) fourth

theorem ascii?_injective {left right : UInt8} {c : Char} (first : ascii? left = some c)
    (second : ascii? right = some c) : left = right := by
  have toNat_of_ascii? : ∀ {byte : UInt8}, ascii? byte = some c → byte.toNat = c.toNat := by
    intro byte found
    obtain ⟨-, same⟩ := Option.ite_none_right_eq_some.mp found
    rw [← Option.some.inj same, toNat_ofUInt8]
  exact UInt8.toNat_inj.mp ((toNat_of_ascii? first).trans (toNat_of_ascii? second).symm)

theorem exists_byte_inside (before rest : Text) {c : Char} {step : Nat}
    (inside : step < c.utf8Size) :
    ∃ byte, byte? (before ++ c :: rest) (width before + step) = some byte ∧
      ascii? byte = shown? c := by
  have short : step < (String.utf8EncodeChar c).length := by
    rw [String.length_utf8EncodeChar]
    exact inside
  refine ⟨(String.utf8EncodeChar c)[step], ?_, ascii?_of_mem (List.getElem_mem short)⟩
  rw [byte?, bytes_append, bytes_cons,
    List.getElem?_append_right (by rw [length_bytes]; omega), length_bytes,
    Nat.add_sub_cancel_left, List.getElem?_append_left short, List.getElem?_eq_getElem short]

theorem exists_byte (before rest : Text) (c : Char) :
    ∃ byte, byte? (before ++ c :: rest) (width before) = some byte ∧ ascii? byte = shown? c := by
  simpa using exists_byte_inside before rest c.utf8Size_pos

@[simp] theorem byte?_eq_none_iff {text : Text} {offset : Nat} :
    byte? text offset = none ↔ width text ≤ offset := by
  simp [byte?]

theorem lt_width_of_byte? {text : Text} {offset : Nat} {byte : UInt8}
    (found : byte? text offset = some byte) : offset < width text := by
  have := (List.getElem?_eq_some_iff.mp found).choose
  simpa using this

/-- What a scan does at one place it does at the next character, when it passes over every byte
that shows what this character shows; it may have come in between two bytes of the character. -/
theorem pass_inside {f : Nat → α} (before rest : Text) {c : Char} {step : Nat}
    (passes : ∀ offset byte, byte? (before ++ c :: rest) offset = some byte →
      ascii? byte = shown? c → f offset = f (offset + 1))
    (inside : step ≤ c.utf8Size) : f (width before + step) = f (width (before ++ [c])) := by
  obtain ⟨left, same⟩ : ∃ left, c.utf8Size = step + left := ⟨_, (Nat.add_sub_cancel' inside).symm⟩
  induction left generalizing step with
  | zero => simp [same]
  | succ left ih =>
    obtain ⟨byte, found, shown⟩ :=
      exists_byte_inside before rest (show step < c.utf8Size by omega)
    rw [passes _ byte found shown, Nat.add_assoc]
    exact ih (by omega) (by omega)

/-- A scan that comes to a character and passes over its bytes comes to the next one. -/
theorem pass {f : Nat → α} (before rest : Text) {c : Char}
    (passes : ∀ offset byte, byte? (before ++ c :: rest) offset = some byte →
      ascii? byte = shown? c → f offset = f (offset + 1)) :
    f (width before) = f (width (before ++ [c])) := by
  simpa using pass_inside before rest passes (Nat.zero_le c.utf8Size)

/-- A scan that jumps to the second byte of a character, as behind an escape, and passes over the
bytes of long characters comes to the next one. -/
theorem pass_escaped {f : Nat → α} (before rest : Text) {c : Char}
    (passes : ∀ offset byte, byte? (before ++ c :: rest) offset = some byte →
      ascii? byte = none → f offset = f (offset + 1)) :
    f (width before + 1) = f (width (before ++ [c])) := by
  by_cases narrow : c.utf8Size = 1
  · simp [narrow]
  · apply pass_inside before rest
    · intro offset byte found shown
      apply passes offset byte found
      rw [shown, shown?, if_neg narrow]
    · exact c.utf8Size_pos

/-- A test for ASCII characters is the same for the bytes of a character. -/
theorem any_shown? {test : Char → Bool} (narrow : ∀ c, test c = true → c.utf8Size = 1) (c : Char) :
    (shown? c).any test = test c := by
  unfold shown?
  split
  · rfl
  · rename_i wide
    by_cases passed : test c = true
    · exact absurd (narrow c passed) wide
    · simp [passed]

theorem shows_append {test : Char → Bool} (narrow : ∀ c, test c = true → c.utf8Size = 1)
    (before rest : Text) :
    shows test (before ++ rest) (width before) = rest.head?.any test := by
  cases rest with
  | nil =>
    have ended : byte? (before ++ []) (width before) = none := by simp
    rw [shows, ended]
    rfl
  | cons c rest =>
    obtain ⟨byte, here, shown⟩ := exists_byte before rest c
    rw [shows, here, Option.bind_some, shown, any_shown? narrow]
    rfl

theorem holds_append {c : Char} (narrow : c.utf8Size = 1) (before rest : Text) :
    holds (before ++ rest) (width before) c = rest.head?.any (· == c) := by
  apply shows_append
  intro other same
  rw [eq_of_beq same, narrow]

theorem head?_any_beq_iff {c : Char} {text : Text} :
    text.head?.any (· == c) = true ↔ ∃ rest, text = c :: rest := by
  cases text <;> simp

/-- An ASCII character stands between two characters, whatever led to its offset. -/
theorem exists_append_of_holds {text : Text} {offset : Nat} {c : Char}
    (found : holds text offset c = true) :
    ∃ before rest, text = before ++ c :: rest ∧ width before = offset := by
  induction text generalizing offset with
  | nil => simp [holds, shows, byte?, bytes] at found
  | cons d text ih =>
    simp only [holds, shows, byte?, bytes_cons] at found
    by_cases inside : offset < d.utf8Size
    · have short : offset < (String.utf8EncodeChar d).length := by
        rw [String.length_utf8EncodeChar]
        exact inside
      rw [List.getElem?_append_left short, List.getElem?_eq_getElem short, Option.bind_some,
        ascii?_of_mem (List.getElem_mem short), Option.any_eq_true] at found
      obtain ⟨other, shown, same⟩ := found
      obtain ⟨rfl, narrow⟩ := shown?_eq_some_iff.mp shown
      obtain rfl := eq_of_beq same
      exact ⟨[], text, rfl, by rw [width_nil]; omega⟩
    · rw [List.getElem?_append_right (by rw [String.length_utf8EncodeChar]; omega),
        String.length_utf8EncodeChar] at found
      obtain ⟨before, rest, rfl, wide⟩ := ih found
      exact ⟨d :: before, rest, rfl, by rw [width_cons]; omega⟩

theorem narrow_of_isAlphanum {c : Char} (alphanumeric : c.isAlphanum = true) :
    c.utf8Size = 1 := by
  have narrow : ∀ {last : UInt32}, last ≤ 127 → c.val ≤ last → c.utf8Size = 1 := by
    intro last small below
    exact Char.utf8Size_eq_one_iff.mpr (UInt32.le_trans below small)
  rcases Bool.or_eq_true_iff.mp alphanumeric with letter | digit
  · rcases Bool.or_eq_true_iff.mp letter with upper | lower
    · exact narrow (by decide) (of_decide_eq_true upper).2
    · exact narrow (by decide) (of_decide_eq_true (Bool.and_eq_true_iff.mp lower).2)
  · exact narrow (by decide) (of_decide_eq_true (Bool.and_eq_true_iff.mp digit).2)

end QuestRecords.Offsets
