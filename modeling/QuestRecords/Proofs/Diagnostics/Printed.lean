import Mathlib.Tactic.FinCases
import QuestRecords.Proofs.Diagnostics.Kept

namespace QuestRecords

/-- Lines as they are printed, each with its end. -/
def printed (lines : List String) : String := String.join (lines.map (· ++ "\n"))

/-- A text cut at its ends of lines. -/
def linesOf (text : String) : List String := (text.toList.splitOn '\n').map String.ofList

def beginsWith (beginning line : String) : Bool := beginning.toList.isPrefixOf line.toList

/-- A text in which no line ends. -/
def Unbroken (text : String) : Prop := '\n' ∉ text.toList

instance (text : String) : Decidable (Unbroken text) := inferInstanceAs (Decidable ('\n' ∉ text.toList))

theorem printed_nil : printed [] = "" := rfl

theorem printed_cons (line : String) (lines : List String) :
    printed (line :: lines) = line ++ "\n" ++ printed lines := String.join_cons

theorem printed_append (first last : List String) :
    printed (first ++ last) = printed first ++ printed last := by
  rw [printed, List.map_append, String.join_append]
  rfl

theorem printed_flatMap (lines : α → List String) (values : List α) :
    printed (values.flatMap lines) = String.join (values.map fun value => printed (lines value)) := by
  induction values with
  | nil => rfl
  | cons value values ih =>
    rw [List.flatMap_cons, printed_append, ih, List.map_cons, String.join_cons]

@[simp] theorem unbroken_append {first last : String} :
    Unbroken (first ++ last) ↔ Unbroken first ∧ Unbroken last := by
  rw [Unbroken, String.toList_append, List.mem_append, not_or]
  rfl

theorem unbroken_ofList {letters : List Char} (unbroken : '\n' ∉ letters) :
    Unbroken (String.ofList letters) := by
  rwa [Unbroken, String.toList_ofList]

/-- Lines that were printed are found again, with what stands behind the last of them. -/
theorem linesOf_printed {lines : List String} {last : String}
    (unbroken : ∀ line ∈ lines, Unbroken line) (ending : Unbroken last) :
    linesOf (printed lines ++ last) = lines ++ [last] := by
  induction lines with
  | nil =>
    rw [printed_nil, String.empty_append, linesOf, List.splitOn_eq_singleton ending]
    simp
  | cons line lines ih =>
    obtain ⟨first, others⟩ := List.forall_mem_cons.mp unbroken
    have text : (printed (line :: lines) ++ last).toList =
        line.toList ++ '\n' :: (printed lines ++ last).toList := by
      simp [printed_cons]
    rw [linesOf, text, List.splitOn_append_cons_self_of_not_mem first, List.map_cons,
      String.ofList_toList]
    exact congrArg (line :: ·) (ih others)

theorem beginsWith_of_head {beginning line : String} {first : Char}
    (head : beginning.toList.head? = some first) (other : line.toList.head? ≠ some first) :
    beginsWith beginning line = false := by
  rw [beginsWith, ← Bool.not_eq_true, List.isPrefixOf_iff_prefix]
  rintro ⟨rest, whole⟩
  rw [← whole, List.head?_append, head] at other
  exact other rfl

namespace Code

theorem register_advises : ∀ entry ∈ register,
    Unbroken entry.category ∧ Unbroken entry.action ∧ entry.action ≠ noAction := by
  intro entry member
  fin_cases member <;>
    exact ⟨unbroken_ofList (by decide), unbroken_ofList (by decide), by decide⟩

theorem entry?_mem {code : Code} {entry : Entry} (found : code.entry? = some entry) :
    entry ∈ register := List.mem_of_find?_eq_some found

theorem unbroken_category (code : Code) : Unbroken code.category := by
  rw [category]
  cases found : code.entry? with
  | none => decide
  | some entry => exact (register_advises entry (entry?_mem found)).1

theorem unbroken_severity (code : Code) : Unbroken code.severity.label := by
  cases code.severity <;> decide

end Code

namespace Event

/-- The details that tell more than the quest of an event. -/
def ownDetails (event : Event) : List (String × String) :=
  event.details.entries.filter fun detail => detail.1 ∉ ["quest", "input_id"]

/-- A line for each of the own details, below a bar. -/
def contextLines (event : Event) : List String :=
  (if event.ownDetails = [] then [] else ["  |"]) ++
    event.ownDetails.map fun (name, value) => "  = " ++ name ++ ": " ++ value

def errorLines (event : Event) : List String :=
  ("error[" ++ event.code.text ++ "]: " ++ event.message) ::
  ("  = severity: " ++ event.code.severity.label ++ ", category: " ++ event.code.category) ::
  (event.contextLines ++ event.code.entry?.toList.map fun entry => "  = help: " ++ entry.action)

def warningLines (event : Event) : List String :=
  ("warning[" ++ event.code.text ++ "]: " ++ event.message) :: event.contextLines

structure UnbrokenTexts (event : Event) : Prop where
  code : Unbroken event.code.text
  message : Unbroken event.message
  details : ∀ detail ∈ event.details.entries, Unbroken detail.1 ∧ Unbroken detail.2

variable (event : Event)

theorem mem_contextLines {line : String} (member : line ∈ event.contextLines) :
    line = "  |" ∨ ∃ detail ∈ event.details.entries,
      line = "  = " ++ detail.1 ++ ": " ++ detail.2 := by
  rcases List.mem_append.mp member with bar | listed
  · split at bar
    · cases bar
    · exact .inl (List.mem_singleton.mp bar)
  · obtain ⟨detail, own, rfl⟩ := List.mem_map.mp listed
    exact .inr ⟨detail, List.mem_of_mem_filter own, rfl⟩

variable {event}

theorem UnbrokenTexts.contextLines (texts : event.UnbrokenTexts) :
    ∀ line ∈ event.contextLines, Unbroken line := by
  intro line member
  rcases mem_contextLines event member with rfl | ⟨detail, own, rfl⟩
  · decide
  · obtain ⟨name, value⟩ := texts.details detail own
    simp only [unbroken_append]
    exact ⟨⟨⟨by decide, name⟩, by decide⟩, value⟩

theorem UnbrokenTexts.firstLine (texts : event.UnbrokenTexts) {kind : String}
    (unbroken : Unbroken kind) : Unbroken (kind ++ event.code.text ++ "]: " ++ event.message) := by
  simp only [unbroken_append]
  exact ⟨⟨⟨unbroken, texts.code⟩, by decide⟩, texts.message⟩

theorem UnbrokenTexts.warningLines (texts : event.UnbrokenTexts) :
    ∀ line ∈ event.warningLines, Unbroken line :=
  List.forall_mem_cons.mpr ⟨texts.firstLine (by decide), texts.contextLines⟩

theorem UnbrokenTexts.errorLines (texts : event.UnbrokenTexts) :
    ∀ line ∈ event.errorLines, Unbroken line := by
  refine List.forall_mem_cons.mpr ⟨texts.firstLine (by decide), List.forall_mem_cons.mpr ⟨?_,
    List.forall_mem_append.mpr ⟨texts.contextLines, ?_⟩⟩⟩
  · simp only [unbroken_append]
    exact ⟨⟨⟨by decide, event.code.unbroken_severity⟩, by decide⟩, event.code.unbroken_category⟩
  · intro line member
    obtain ⟨entry, found, rfl⟩ := List.mem_map.mp member
    have listed := Code.entry?_mem (Option.mem_toList.mp found)
    exact unbroken_append.mpr ⟨by decide, (Code.register_advises entry listed).2.1⟩

section

variable {beginning : String} {first : Char} (head : beginning.toList.head? = some first)
  (indented : first ≠ ' ') (event : Event)

include head indented

theorem not_beginsWith_of_indented {line : String} (space : line.toList.head? = some ' ') :
    beginsWith beginning line = false := by
  refine beginsWith_of_head head ?_
  rw [space]
  exact fun same => indented (Option.some.inj same).symm

theorem countP_contextLines : event.contextLines.countP (beginsWith beginning) = 0 := by
  refine List.countP_eq_zero.mpr fun line member => ?_
  rw [Bool.not_eq_true]
  refine not_beginsWith_of_indented head indented ?_
  rcases mem_contextLines event member with rfl | ⟨detail, -, rfl⟩ <;> simp

theorem countP_warningLines : event.warningLines.countP (beginsWith beginning) =
    if beginsWith beginning ("warning[" ++ event.code.text ++ "]: " ++ event.message) then 1
    else 0 := by
  rw [warningLines, List.countP_cons, countP_contextLines head indented, Nat.zero_add]

theorem countP_errorLines : event.errorLines.countP (beginsWith beginning) =
    if beginsWith beginning ("error[" ++ event.code.text ++ "]: " ++ event.message) then 1
    else 0 := by
  have severity : beginsWith beginning ("  = severity: " ++ event.code.severity.label ++
      ", category: " ++ event.code.category) = false :=
    not_beginsWith_of_indented head indented (by simp)
  have help : (event.code.entry?.toList.map fun entry => "  = help: " ++ entry.action).countP
      (beginsWith beginning) = 0 := by
    refine List.countP_eq_zero.mpr fun line member => ?_
    obtain ⟨entry, -, rfl⟩ := List.mem_map.mp member
    rw [Bool.not_eq_true]
    exact not_beginsWith_of_indented head indented (by simp)
  rw [errorLines, List.countP_cons, List.countP_cons, List.countP_append,
    countP_contextLines head indented, help, severity, if_neg Bool.false_ne_true]
  simp only [Nat.zero_add]

end

end Event

namespace Collector

theorem detailLines_eq (event : Event) : detailLines event = printed event.contextLines := by
  have own : (event.details.entries.filter fun detail =>
      detail.1 ≠ "quest" ∧ detail.1 ≠ "input_id") = event.ownDetails := by
    simp [Event.ownDetails]
  rw [detailLines, own, Event.contextLines]
  cases event.ownDetails with
  | nil => rfl
  | cons detail details =>
    rw [if_neg (List.cons_ne_nil _ _), List.singleton_append, printed_cons, printed, List.map_map]
    rfl

theorem warningBlock_eq (event : Event) : warningBlock event = printed event.warningLines := by
  rw [warningBlock, detailLines_eq, Event.warningLines, printed_cons]

/-- An error is printed with the advice of the register, if its code is registered. -/
theorem errorBlock_eq (event : Event) : errorBlock event = printed event.errorLines := by
  have help : (if event.code.action = Code.noAction then ""
      else "  = help: " ++ event.code.action ++ "\n") =
        printed (event.code.entry?.toList.map fun entry => "  = help: " ++ entry.action) := by
    rw [Code.action]
    cases found : event.code.entry? with
    | none => rfl
    | some entry =>
      have advised := (Code.register_advises entry (Code.entry?_mem found)).2.2
      rw [Option.map_some, Option.getD_some, if_neg advised, Option.toList_some,
        List.map_singleton, printed_cons, printed_nil, String.append_empty]
  calc errorBlock event
    _ = "error[" ++ event.code.text ++ "]: " ++ event.message ++ "\n" ++
          "  = severity: " ++ event.code.severity.label ++ ", category: " ++ event.code.category ++
          "\n" ++ detailLines event ++
          (if event.code.action = Code.noAction then ""
            else "  = help: " ++ event.code.action ++ "\n") := rfl
    _ = printed event.errorLines := by
      rw [help, detailLines_eq, Event.errorLines, printed_cons, printed_cons, printed_append]
      simp only [String.append_assoc]

end Collector
end QuestRecords
