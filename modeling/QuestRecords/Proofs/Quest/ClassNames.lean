import QuestRecords.Proofs.Text.AsciiCase
import QuestRecords.Pipeline.Attempt

/-! Class names of display names. What stands between two words cuts a display name in two, whose
class names are put side by side; apostrophes make no difference. The class name of a display name
in ASCII is its own class name, so a quest that goes by the name of its class keeps it. -/
namespace QuestRecords

open Text

namespace Naming

def unquoted (displayName : Text) : Text := displayName.filter fun c => !isApostrophe c

/-- Whether a character is of ASCII, or the apostrophe that is not. -/
def isPlain (c : Char) : Bool := c.toNat < 128 || c == '’'

variable {c : Char} {text : Text}

/-- The state before a separator is forgotten: after one, the next letter starts a word. -/
theorem classNameFrom_append (separates : isAlphanumeric c = false)
    (unseen : isApostrophe c = false) (atStart : Bool) (before after : Text) :
    classNameFrom atStart (before ++ c :: after) =
      classNameFrom atStart before ++ className after := by
  fun_induction classNameFrom atStart before with
  | case1 atStart =>
    rw [List.nil_append, List.nil_append, classNameFrom, separates, unseen, className]
    rfl
  | case2 atStart first before apostrophe ih =>
    rw [List.cons_append, classNameFrom, if_pos apostrophe, ih]
  | case3 atStart first before other letter ih =>
    rw [List.cons_append, classNameFrom, if_neg other, if_pos letter, ih, List.append_assoc]
  | case4 atStart first before other between ih =>
    rw [List.cons_append, classNameFrom, if_neg other, if_neg between, ih]

theorem classNameFrom_unquoted (atStart : Bool) (text : Text) :
    classNameFrom atStart (unquoted text) = classNameFrom atStart text := by
  rw [unquoted]
  fun_induction classNameFrom atStart text with
  | case1 => rfl
  | case2 atStart c text apostrophe ih =>
    rw [List.filter_cons, apostrophe, Bool.not_true, if_neg Bool.false_ne_true, ih]
  | case3 atStart c text other letter ih =>
    rw [List.filter_cons, eq_false_of_ne_true other, Bool.not_false, if_pos rfl, classNameFrom,
      if_neg other, if_pos letter, ih]
  | case4 atStart c text other between ih =>
    rw [List.filter_cons, eq_false_of_ne_true other, Bool.not_false, if_pos rfl, classNameFrom,
      if_neg other, if_neg between, ih]

theorem isApostrophe_of_isAlphanum (alphanumeric : c.isAlphanum = true) :
    isApostrophe c = false :=
  holds_of_ascii (fun c => c.isAlphanum = true → isApostrophe c = false) (by decide)
    (toNat_lt_of_isAlphanum alphanumeric) alphanumeric

theorem classNameFrom_cons_of_isAlphanum (alphanumeric : c.isAlphanum = true) (atStart : Bool)
    (rest : Text) :
    classNameFrom atStart (c :: rest) =
      (if atStart then upperChar c else [c]) ++ classNameFrom false rest := by
  have letter : isAlphanumeric c = true := by
    rw [isAlphanumeric_of_ascii (toNat_lt_of_isAlphanum alphanumeric), alphanumeric]
  rw [classNameFrom, isApostrophe_of_isAlphanum alphanumeric, if_neg Bool.false_ne_true,
    if_pos letter]

/-- Within a word letters and digits are kept as they are. -/
theorem classNameFrom_false_of_isAlphanum (alphanumeric : ∀ c ∈ text, c.isAlphanum = true) :
    classNameFrom false text = text := by
  induction text with
  | nil => rfl
  | cons c text ih =>
    obtain ⟨letter, letters⟩ := List.forall_mem_cons.mp alphanumeric
    rw [classNameFrom_cons_of_isAlphanum letter, ih letters]
    rfl

theorem isAlphanum_of_isPlain (plain : isPlain c = true) (other : ¬ isApostrophe c = true)
    (letter : isAlphanumeric c = true) : c.isAlphanum = true := by
  rw [isPlain, Bool.or_eq_true, decide_eq_true_iff, beq_iff_eq] at plain
  obtain ascii | rfl := plain
  · rw [← letter, isAlphanumeric_of_ascii ascii]
  · exact absurd rfl other

theorem upperChar_of_isAlphanum (alphanumeric : c.isAlphanum = true) :
    ∃ capital, upperChar c = [capital] ∧ capital.isAlphanum = true ∧
      upperChar capital = [capital] := by
  have ascii := toNat_lt_of_isAlphanum alphanumeric
  obtain ⟨letter, capital⟩ := holds_of_ascii
    (fun c => c.isAlphanum = true → c.toUpper.isAlphanum = true ∧ c.toUpper.toUpper = c.toUpper)
    (by decide) ascii alphanumeric
  refine ⟨c.toUpper, upperChar_of_ascii ascii, letter, ?_⟩
  rw [upperChar_of_ascii (toNat_lt_of_isAlphanum letter), capital]

theorem isAlphanum_of_mem_classNameFrom (atStart : Bool) (plain : ∀ c ∈ text, isPlain c = true) :
    ∀ c ∈ classNameFrom atStart text, c.isAlphanum = true := by
  fun_induction classNameFrom atStart text with
  | case1 => exact List.forall_mem_nil _
  | case2 _ _ _ _ ih => exact ih (List.forall_mem_cons.mp plain).2
  | case3 atStart c text other letter ih =>
    obtain ⟨first, others⟩ := List.forall_mem_cons.mp plain
    have alphanumeric := isAlphanum_of_isPlain first other letter
    refine List.forall_mem_append.mpr ⟨?_, ih others⟩
    cases atStart with
    | false => exact List.forall_mem_singleton.mpr alphanumeric
    | true =>
      obtain ⟨capital, upper, kept, -⟩ := upperChar_of_isAlphanum alphanumeric
      rw [if_pos rfl, upper]
      exact List.forall_mem_singleton.mpr kept
  | case4 _ _ _ _ _ ih => exact ih (List.forall_mem_cons.mp plain).2

/-- The first word starts with what is its own upper case, and the others are kept as they are. -/
theorem className_className (plain : ∀ c ∈ text, isPlain c = true) :
    className (className text) = className text := by
  rw [className, className]
  induction text with
  | nil => rfl
  | cons c text ih =>
    obtain ⟨first, others⟩ := List.forall_mem_cons.mp plain
    by_cases apostrophe : isApostrophe c = true
    · rw [classNameFrom, if_pos apostrophe, ih others]
    by_cases letter : isAlphanumeric c = true
    · -- Here the first word starts; what is behind its first letter holds no separator any more.
      obtain ⟨capital, upper, kept, fixed⟩ :=
        upperChar_of_isAlphanum (isAlphanum_of_isPlain first apostrophe letter)
      have rest := classNameFrom_false_of_isAlphanum (isAlphanum_of_mem_classNameFrom false others)
      rw [classNameFrom, if_neg apostrophe, if_pos letter, if_pos rfl, upper,
        List.singleton_append, classNameFrom_cons_of_isAlphanum kept, if_pos rfl, fixed, rest,
        List.singleton_append]
    · rw [classNameFrom, if_neg apostrophe, if_neg letter, ih others]

open ExtractedQuest

/-- A source that declares no public class is of the class that its display name gives. -/
theorem className_ofSource (displayName : String) {source : Text}
    (undeclared : Source.declaredClass? source = none) :
    (ofSource displayName source).value.className =
      String.ofList (className displayName.toList) := by
  have derived : (classNameOf displayName source).value =
      String.ofList (className displayName.toList) := by
    rw [classNameOf, undeclared]
    rfl
  rw [ofSource, Logged.value_bind, derived]
  rfl

/-- Two display names with something other than letters, numbers and apostrophes between them make
the class names of both, one after the other; display names that differ in apostrophes only have the
same class name. The class name of a display name in ASCII is of ASCII letters and digits and its
own class name, and a source that declares no class is of the class after which it is named. -/
theorem className_compositional :
    (∀ before after c, isAlphanumeric c = false → isApostrophe c = false →
      className (before ++ c :: after) = className before ++ className after) ∧
    (∀ text other, unquoted text = unquoted other → className text = className other) ∧
    ∀ text, (∀ c ∈ text, isPlain c = true) →
      (∀ c ∈ className text, c.isAlphanum = true) ∧
      className (className text) = className text ∧
      ∀ source, Source.declaredClass? source = none →
        (ofSource (String.ofList (className text)) source).value.className =
          String.ofList (className text) := by
  refine ⟨fun before after c separates unseen => ?_, fun text other same => ?_,
    fun text plain => ⟨?_, className_className plain, fun source undeclared => ?_⟩⟩
  · exact classNameFrom_append separates unseen true before after
  · rw [className, className, ← classNameFrom_unquoted, same, classNameFrom_unquoted]
  · exact isAlphanum_of_mem_classNameFrom true plain
  · rw [className_ofSource _ undeclared, String.toList_ofList, className_className plain]

theorem className_compositional_treasure :
    className "Pirate’s Treasure".toList =
      className "Pirate’s".toList ++ className "Treasure".toList ∧
    className "Pirate’s Treasure".toList = className "'Pirates Treasure'".toList ∧
    className "PiratesTreasure".toList = "PiratesTreasure".toList ∧
    (ofSource "PiratesTreasure" "class Lost {}".toList).value.className = "PiratesTreasure" := by
  obtain ⟨composed, unseen, stable⟩ := className_compositional
  have plain : ∀ c ∈ "Pirate’s Treasure".toList, isPlain c = true :=
    List.all_eq_true.mp (by decide)
  have named : className "Pirate’s Treasure".toList = "PiratesTreasure".toList := by decide
  obtain ⟨-, fixed, kept⟩ := stable _ plain
  have undeclared : Source.declaredClass? "class Lost {}".toList = none := by decide
  have kept := kept _ undeclared
  rw [named] at fixed kept
  refine ⟨?_, unseen _ _ (by decide), fixed, kept⟩
  exact composed "Pirate’s".toList "Treasure".toList ' ' (by decide) (by decide)

end Naming
end QuestRecords
