import QuestRecords.Proofs.Offsets.Checked

namespace QuestRecords.Offsets

open Text Source

/-- A pair of brackets, and the characters that may not stand between them. -/
structure Brackets where
  opening : Char
  closing : Char
  excluded : Char → Bool

/-- Brackets that show in bytes. -/
structure Brackets.Narrow (brackets : Brackets) : Prop where
  opening : brackets.opening.utf8Size = 1
  closing : brackets.closing.utf8Size = 1
  excluded : ∀ c, brackets.excluded c = true → c.utf8Size = 1

/-- The parentheses of a parameter list. -/
def parameterList : Brackets := ⟨'(', ')', fun c => c == '\x7b' || c == '\x7d' || c == ';'⟩

/-- The braces of a body. -/
def bodyBraces : Brackets := ⟨'\x7b', '\x7d', fun _ => false⟩

@[simp] theorem parameterList_opening : parameterList.opening = '(' := rfl

@[simp] theorem parameterList_closing : parameterList.closing = ')' := rfl

@[simp] theorem parameterList_excluded (c : Char) :
    parameterList.excluded c = (c == '\x7b' || c == '\x7d' || c == ';') := rfl

@[simp] theorem bodyBraces_opening : bodyBraces.opening = '\x7b' := rfl

@[simp] theorem bodyBraces_closing : bodyBraces.closing = '\x7d' := rfl

@[simp] theorem bodyBraces_excluded (c : Char) : bodyBraces.excluded c = false := rfl

def balancedFrom (brackets : Brackets) (text : Text) (depth offset : Nat) : Checked (Option Nat) :=
  match _here : byte? text offset with
  | none => .ok none
  | some byte =>
    if ascii? byte = some brackets.opening then balancedFrom brackets text (depth + 1) (offset + 1)
    else if ascii? byte = some brackets.closing then do
      let left ← subtract depth 1
      if left = 0 then return some offset else balancedFrom brackets text left (offset + 1)
    else if (ascii? byte).any brackets.excluded then .ok none
    else balancedFrom brackets text depth (offset + 1)
termination_by width text - offset
decreasing_by
  all_goals
    have := lt_width_of_byte? _here
    omega

/-- What stands before the closing bracket of brackets that opened before a text. -/
def inside? (brackets : Brackets) (depth : Nat) : Text → Option Text
  | [] => none
  | c :: rest =>
    if c = brackets.opening then (inside? brackets (depth + 1) rest).map (c :: ·)
    else if c = brackets.closing then
      if depth = 0 then some [] else (inside? brackets (depth - 1) rest).map (c :: ·)
    else if brackets.excluded c then none
    else (inside? brackets depth rest).map (c :: ·)

theorem balancedFrom_of_end {brackets : Brackets} {text : Text} {depth offset : Nat}
    (ended : width text ≤ offset) : balancedFrom brackets text depth offset = .ok none := by
  rw [balancedFrom]
  split
  · rfl
  · rename_i byte found
    have := lt_width_of_byte? found
    omega

theorem balancedFrom_of_byte? {brackets : Brackets} {text : Text} {depth offset : Nat}
    {byte : UInt8} (found : byte? text offset = some byte) :
    balancedFrom brackets text depth offset =
      if ascii? byte = some brackets.opening then
        balancedFrom brackets text (depth + 1) (offset + 1)
      else if ascii? byte = some brackets.closing then do
        let left ← subtract depth 1
        if left = 0 then return some offset else balancedFrom brackets text left (offset + 1)
      else if (ascii? byte).any brackets.excluded then .ok none
      else balancedFrom brackets text depth (offset + 1) := by
  rw [balancedFrom]
  split
  · simp_all
  · simp_all

theorem shown?_eq_iff {c other : Char} (narrow : other.utf8Size = 1) :
    shown? c = some other ↔ c = other := by
  rw [shown?_eq_some_iff]
  constructor
  · exact And.left
  · rintro rfl
    exact ⟨rfl, narrow⟩

theorem balancedFrom_of_shown {brackets : Brackets} (narrow : brackets.Narrow) {text : Text}
    {depth offset : Nat} {byte : UInt8} {c : Char} (found : byte? text offset = some byte)
    (shown : ascii? byte = shown? c) :
    balancedFrom brackets text depth offset =
      if c = brackets.opening then balancedFrom brackets text (depth + 1) (offset + 1)
      else if c = brackets.closing then do
        let left ← subtract depth 1
        if left = 0 then return some offset else balancedFrom brackets text left (offset + 1)
      else if brackets.excluded c then .ok none
      else balancedFrom brackets text depth (offset + 1) := by
  rw [balancedFrom_of_byte? found, shown, any_shown? narrow.excluded]
  simp only [shown?_eq_iff narrow.opening, shown?_eq_iff narrow.closing]

/-- The scan finds the bracket that reading by characters stops at. -/
theorem balancedFrom_append {brackets : Brackets} (narrow : brackets.Narrow) (depth : Nat)
    (before rest : Text) :
    balancedFrom brackets (before ++ rest) (depth + 1) (width before) =
      .ok ((inside? brackets depth rest).map fun inside => width before + width inside) := by
  induction rest generalizing depth before with
  | nil => exact balancedFrom_of_end (by simp)
  | cons c rest ih =>
    obtain ⟨byte, here, shown⟩ := exists_byte before rest c
    have later : ∀ depth, balancedFrom brackets (before ++ c :: rest) (depth + 1)
        (width (before ++ [c])) =
          .ok (((inside? brackets depth rest).map (c :: ·)).map fun inside =>
            width before + width inside) := by
      intro depth
      have next := ih depth (before ++ [c])
      rw [List.append_assoc, List.singleton_append] at next
      rw [next, Option.map_map]
      simp [Function.comp_def, Nat.add_assoc]
    have step : ∀ {c}, c.utf8Size = 1 → width before + 1 = width (before ++ [c]) := by
      intro c size
      rw [width_append, width_cons, size, width_nil]
    by_cases opens : c = brackets.opening
    · rw [balancedFrom_of_shown narrow here shown, inside?, if_pos opens, if_pos opens,
        step (opens ▸ narrow.opening), later]
    by_cases closes : c = brackets.closing
    · rw [balancedFrom_of_shown narrow here shown, inside?, if_neg opens, if_neg opens,
        if_pos closes, if_pos closes, subtract_succ, ok_bind]
      cases depth with
      | zero => rfl
      | succ depth =>
        rw [if_neg (Nat.succ_ne_zero depth), if_neg (Nat.succ_ne_zero depth),
          step (closes ▸ narrow.closing), later, Nat.add_sub_cancel]
    by_cases excluded : brackets.excluded c = true
    · rw [balancedFrom_of_shown narrow here shown, inside?, if_neg opens, if_neg opens,
        if_neg closes, if_neg closes, if_pos excluded, if_pos excluded]
      rfl
    · have passed := pass (f := balancedFrom brackets (before ++ c :: rest) (depth + 1))
        before rest (c := c) fun offset byte found shown => by
          rw [balancedFrom_of_shown narrow found shown, if_neg opens, if_neg closes,
            if_neg excluded]
      rw [passed, later, inside?, if_neg opens, if_neg closes, if_neg excluded]

theorem narrow_parameterList : parameterList.Narrow := by
  refine ⟨rfl, rfl, ?_⟩
  intro c excluded
  simp only [parameterList, Bool.or_eq_true, beq_iff_eq] at excluded
  rcases excluded with (rfl | rfl) | rfl <;> rfl

theorem narrow_bodyBraces : bodyBraces.Narrow :=
  ⟨rfl, rfl, fun _ excluded => absurd excluded Bool.false_ne_true⟩

theorem inside?_bodyBraces (depth : Nat) (text : Text) :
    inside? bodyBraces depth text = Member.closedBody? depth text := by
  induction text generalizing depth with
  | nil => rfl
  | cons c rest ih =>
    cases depth with
    | zero => simp [inside?, Member.closedBody?, ih]
    | succ depth => simp [inside?, Member.closedBody?, ih]

theorem afterParameters?_eq (depth : Nat) (text : Text) :
    Member.afterParameters? depth text =
      (inside? parameterList depth text).map fun inside => text.drop (inside.length + 1) := by
  induction text generalizing depth with
  | nil => rfl
  | cons c rest ih =>
    by_cases opens : c = '('
    · cases depth <;> simp [Member.afterParameters?, inside?, opens, ih, Function.comp_def]
    by_cases closes : c = ')'
    · cases depth <;> simp [Member.afterParameters?, inside?, closes, ih, Function.comp_def]
    by_cases excluded : c = '\x7b' ∨ c = '\x7d' ∨ c = ';'
    · cases depth <;> simp [Member.afterParameters?, inside?, opens, closes, excluded, or_assoc]
    · cases depth <;>
        simp [Member.afterParameters?, inside?, opens, closes, excluded, or_assoc, ih,
          Function.comp_def]

theorem exists_append_of_inside? {brackets : Brackets} {depth : Nat} {text inside : Text}
    (read : inside? brackets depth text = some inside) :
    ∃ rest, text = inside ++ brackets.closing :: rest := by
  induction text generalizing depth inside with
  | nil => cases read
  | cons c rest ih =>
    have later : ∀ {depth}, (inside? brackets depth rest).map (c :: ·) = some inside →
        ∃ left, c :: rest = inside ++ brackets.closing :: left := by
      intro depth read
      obtain ⟨inner, found, same⟩ := Option.map_eq_some_iff.mp read
      obtain ⟨left, split⟩ := ih found
      exact ⟨left, by rw [← same, split, List.cons_append]⟩
    rw [inside?] at read
    by_cases opens : c = brackets.opening
    · rw [if_pos opens] at read
      exact later read
    by_cases closes : c = brackets.closing
    · rw [if_neg opens, if_pos closes] at read
      by_cases outermost : depth = 0
      · rw [if_pos outermost] at read
        cases read
        exact ⟨rest, by rw [closes, List.nil_append]⟩
      · rw [if_neg outermost] at read
        exact later read
    · rw [if_neg opens, if_neg closes] at read
      obtain ⟨-, read⟩ := Option.ite_none_left_eq_some.mp read
      exact later read

theorem balancedFrom_opening {brackets : Brackets} (narrow : brackets.Narrow)
    (before rest : Text) :
    balancedFrom brackets (before ++ brackets.opening :: rest) 0 (width before) =
      .ok ((inside? brackets 0 rest).map fun inside => width before + 1 + width inside) := by
  obtain ⟨byte, here, shown⟩ := exists_byte before rest brackets.opening
  have found := balancedFrom_append narrow 0 (before ++ [brackets.opening]) rest
  simp only [List.append_assoc, List.singleton_append, width_append, width_cons, width_nil,
    narrow.opening, Nat.add_zero] at found
  rw [balancedFrom_of_shown narrow here shown, if_pos rfl, found]

end QuestRecords.Offsets
