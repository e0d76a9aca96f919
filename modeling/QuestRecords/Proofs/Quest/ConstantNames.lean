import QuestRecords.Proofs.Repetitions
import QuestRecords.Proofs.Quest.FirstMentions
import QuestRecords.Proofs.Text.AsciiCase

/-! Quest constants by their display names. Upper case and underscores in place of spaces give a
constant back from its display name, so different constants are shown under different names, and no
required quest is taken for another one. -/
namespace QuestRecords

open Text

namespace QuestName

/-- The characters of the words of a constant. -/
def isMark (c : Char) : Bool := c.isUpper || c.isDigit

/-- One or more words of capital letters and digits, with an underscore between any two of them. -/
def isConstant : Text → Bool
  | [] => false
  | [c] => isMark c
  | c :: '_' :: rest => isMark c && isConstant rest
  | c :: rest => isMark c && isConstant rest

/-- The upper case of a text, with an underscore in place of every space. -/
def restored (name : Text) : Text :=
  (name.flatMap upperChar).map fun c => if c = ' ' then '_' else c

section

variable {c : Char} {text word : Text}

theorem toNat_lt_of_isMark (mark : isMark c = true) : c.toNat < 128 := by
  apply toNat_lt_of_isAlphanum
  have shown : c.isAlphanum = ((c.isUpper || c.isLower) || c.isDigit) := rfl
  rw [isMark, Bool.or_eq_true] at mark
  rw [shown, Bool.or_eq_true, Bool.or_eq_true]
  exact mark.imp_left .inl

theorem restored_append (front rest : Text) :
    restored (front ++ rest) = restored front ++ restored rest := by
  rw [restored, List.flatMap_append, List.map_append]
  rfl

theorem restored_of_ascii (ascii : c.toNat < 128) :
    restored [c] = [if c.toUpper = ' ' then '_' else c.toUpper] := by
  rw [restored, List.flatMap_singleton, upperChar_of_ascii ascii, List.map_singleton]

theorem upper_of_isMark (mark : isMark c = true) :
    c.toUpper = c ∧ c.toLower.toNat < 128 ∧ c.toLower.toUpper = c :=
  holds_of_ascii (fun c => isMark c = true →
      c.toUpper = c ∧ c.toLower.toNat < 128 ∧ c.toLower.toUpper = c)
    (by decide) (toNat_lt_of_isMark mark) mark

theorem ne_of_isMark {other : Char} (mark : isMark c = true) (unmarked : isMark other = false) :
    c ≠ other := by
  rintro rfl
  cases mark.symm.trans unmarked

theorem restored_of_isMark (mark : isMark c = true) : restored [c] = [c] := by
  rw [restored_of_ascii (toNat_lt_of_isMark mark), (upper_of_isMark mark).1,
    if_neg (ne_of_isMark mark rfl)]

theorem restored_upperChar (mark : isMark c = true) : restored (upperChar c) = [c] := by
  rw [upperChar_of_ascii (toNat_lt_of_isMark mark), (upper_of_isMark mark).1,
    restored_of_isMark mark]

theorem restored_lowerChar (mark : isMark c = true) : restored (lowerChar c) = [c] := by
  obtain ⟨-, lowered, capital⟩ := upper_of_isMark mark
  rw [lowerChar_of_ascii (toNat_lt_of_isMark mark), restored_of_ascii lowered, capital,
    if_neg (ne_of_isMark mark rfl)]

theorem restored_of_marks (marks : ∀ c ∈ word, isMark c = true) : restored word = word := by
  induction word with
  | nil => rfl
  | cons c word ih =>
    obtain ⟨mark, marks⟩ := List.forall_mem_cons.mp marks
    rw [← List.singleton_append, restored_append, restored_of_isMark mark, ih marks]

theorem restored_lowered (marks : ∀ c ∈ word, isMark c = true) :
    restored (word.flatMap lowerChar) = word := by
  induction word with
  | nil => rfl
  | cons c word ih =>
    obtain ⟨mark, marks⟩ := List.forall_mem_cons.mp marks
    rw [List.flatMap_cons, restored_append, restored_lowerChar mark, ih marks,
      List.singleton_append]

/-- A word is restored from both of the ways in which it may be shown. -/
theorem restored_showWord (marks : ∀ c ∈ word, isMark c = true) :
    restored (showWord word) = word := by
  rw [showWord]
  split
  · exact restored_of_marks marks
  · cases word with
    | nil => rfl
    | cons c word =>
      obtain ⟨mark, marks⟩ := List.forall_mem_cons.mp marks
      rw [capitalised, restored_append, restored_upperChar mark, restored_lowered marks,
        List.singleton_append]

theorem restored_intercalate {shown : List Text} :
    restored ([' '].intercalate shown) = ['_'].intercalate (shown.map restored) := by
  induction shown with
  | nil => rfl
  | cons first others ih =>
    cases others with
    | nil => rw [List.intercalate_singleton, List.map_singleton, List.intercalate_singleton]
    | cons second others =>
      have space : restored [' '] = ['_'] := by decide
      rw [List.intercalate_cons_cons, restored_append, restored_append, ih, space, List.map_cons,
        List.map_cons, List.map_cons, List.intercalate_cons_cons]

def parts (text : Text) : List Text := (splitUnderscores text).1 :: (splitUnderscores text).2

theorem parts_underscore (text : Text) : parts ('_' :: text) = [] :: parts text := rfl

theorem parts_cons (other : c ≠ '_') (text : Text) :
    parts (c :: text) = (c :: (splitUnderscores text).1) :: (splitUnderscores text).2 := by
  rw [parts, splitUnderscores]
  simp only [if_neg other]

theorem intercalate_parts (text : Text) : ['_'].intercalate (parts text) = text := by
  induction text with
  | nil => rfl
  | cons c text ih =>
    by_cases underscore : c = '_'
    · rw [underscore, parts_underscore, parts, List.intercalate_cons_cons, ← parts, ih]
      rfl
    · rw [parts_cons underscore]
      rw [parts] at ih
      cases others : (splitUnderscores text).2 with
      | nil =>
        rw [others, List.intercalate_singleton] at ih
        rw [List.intercalate_singleton, ih]
      | cons second others' =>
        rw [others, List.intercalate_cons_cons] at ih
        rw [List.intercalate_cons_cons, List.cons_append, List.cons_append, ih]

theorem words_of_isConstant (constant : isConstant text = true) :
    ∀ part ∈ parts text, part ≠ [] ∧ ∀ c ∈ part, isMark c = true := by
  fun_induction isConstant text with
  | case1 => cases constant
  | case2 c =>
    rw [parts_cons (ne_of_isMark constant rfl)]
    exact List.forall_mem_singleton.mpr
      ⟨List.cons_ne_nil _ _, List.forall_mem_singleton.mpr constant⟩
  | case3 c rest ih =>
    obtain ⟨mark, later⟩ := Bool.and_eq_true_iff.mp constant
    have apart : parts (c :: '_' :: rest) = [c] :: parts rest :=
      parts_cons (ne_of_isMark mark rfl) _
    rw [apart]
    exact List.forall_mem_cons.mpr
      ⟨⟨List.cons_ne_nil _ _, List.forall_mem_singleton.mpr mark⟩, ih later⟩
  | case4 c rest _ _ ih =>
    obtain ⟨mark, later⟩ := Bool.and_eq_true_iff.mp constant
    obtain ⟨first, others⟩ := List.forall_mem_cons.mp (ih later)
    rw [parts_cons (ne_of_isMark mark rfl)]
    exact List.forall_mem_cons.mpr
      ⟨⟨List.cons_ne_nil _ _, List.forall_mem_cons.mpr ⟨mark, first.2⟩⟩, others⟩

theorem words_eq_parts (constant : isConstant text = true) : words text = parts text := by
  apply List.filter_eq_self.mpr
  intro part member
  simpa using (words_of_isConstant constant part member).1

theorem restored_ofConstant (constant : isConstant text = true) :
    restored (ofConstant text) = text := by
  have shown : (parts text).map (restored ∘ showWord) = (parts text).map id := by
    apply List.map_congr_left
    intro part member
    exact restored_showWord (words_of_isConstant constant part member).2
  rw [ofConstant, words_eq_parts constant, restored_intercalate, List.map_map, shown, List.map_id,
    intercalate_parts]

theorem ofConstant_injective {other : Text} (constant : isConstant text = true)
    (constant' : isConstant other = true) (same : ofConstant text = ofConstant other) :
    text = other := by
  rw [← restored_ofConstant constant, same, restored_ofConstant constant']

end

end QuestName

namespace Requirement

open Source Reward

/-- The constant of a quest that is given as first argument. -/
def requiredConstant? (call : Call) : Option Text :=
  call.firstArgument?.bind (constantOf? (typeName "QuestHelperQuest"))

def requiredConstants (body : Text) : List Text :=
  (constructorCalls body (typeName "QuestRequirement")).filterMap requiredConstant?

def shownName (constant : Text) : String := String.ofList (QuestName.ofConstant constant)

theorem requiredQuest?_eq (call : Call) :
    requiredQuest? call = (requiredConstant? call).map shownName := by
  rw [requiredQuest?, requiredConstant?]
  cases call.firstArgument? with
  | none => rfl
  | some argument =>
    cases found : constantOf? (typeName "QuestHelperQuest") argument <;> simp [found, shownName]

theorem quests_eq (body : Text) :
    quests body = ((requiredConstants body).map shownName).eraseDups := by
  rw [quests, firstOccurrences_eq_eraseDups, requiredConstants, List.map_filterMap]
  congr 2
  funext call
  exact requiredQuest?_eq call

open QuestName

/-- A constant is given back by its display name, so different constants have different ones; and
the required quests of a body are the display names of the constants in it, one for each, in the
order of first mentions. -/
theorem quests_by_constant :
    (∀ constant, isConstant constant = true → restored (ofConstant constant) = constant) ∧
    (∀ one other, isConstant one = true → isConstant other = true →
      ofConstant one = ofConstant other → one = other) ∧
    ∀ body, (∀ constant ∈ requiredConstants body, isConstant constant = true) →
      quests body = (requiredConstants body).eraseDups.map shownName := by
  refine ⟨fun _ => restored_ofConstant, fun _ _ => ofConstant_injective, fun body constants => ?_⟩
  rw [quests_eq]
  apply eraseDups_map
  intro one listed other listed' same
  exact ofConstant_injective (constants one listed) (constants other listed')
    (String.ofList_injective same)

/-- A quest that is required twice, with another one in between. -/
def requiredTwice : Text :=
  "req.add(new QuestRequirement(QuestHelperQuest.DESERT_TREASURE_II));".toList ++
    "req.add(new QuestRequirement(QuestHelperQuest.X_MARKS_THE_SPOT));".toList ++
    "req.add(new QuestRequirement(QuestHelperQuest.DESERT_TREASURE_II));".toList

theorem quests_by_constant_twice :
    restored "Desert Treasure II".toList = "DESERT_TREASURE_II".toList ∧
    ofConstant "DESERT_TREASURE_II".toList ≠ ofConstant "X_MARKS_THE_SPOT".toList ∧
    quests requiredTwice = ["Desert Treasure II", "X Marks The Spot"] := by
  have found : requiredConstants requiredTwice = ["DESERT_TREASURE_II".toList,
      "X_MARKS_THE_SPOT".toList, "DESERT_TREASURE_II".toList] := by decide +kernel
  obtain ⟨restores, apart, listed⟩ := quests_by_constant
  have desert : isConstant "DESERT_TREASURE_II".toList = true := by decide
  have spot : isConstant "X_MARKS_THE_SPOT".toList = true := by decide
  have constants : ∀ constant ∈ requiredConstants requiredTwice, isConstant constant = true := by
    rw [found]
    decide
  have shown : ofConstant "DESERT_TREASURE_II".toList = "Desert Treasure II".toList := by
    decide
  refine ⟨?_, fun same => absurd (apart _ _ desert spot same) (by decide), ?_⟩
  · rw [← shown]
    exact restores _ desert
  · rw [listed requiredTwice constants, found]
    decide

end Requirement
end QuestRecords
