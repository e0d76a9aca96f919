import QuestRecords.Proofs.Quest.LampSelection

/-! The amounts of a lamp whose call tells none in its text. They are read from the arguments that are
whole numbers: one before the last argument is the value, and then a last one is the quantity. A whole
number that stands alone, in the last argument, is the value as well. -/
namespace QuestRecords.Lamp

open Source Text

/-- The first argument before the last one that is a whole number. -/
def numberBeforeLast? (call : Call) : Option Int64 := call.arguments.dropLast.findSome? integer?

/-- The last argument, if it is a whole number. -/
def numberAtLast? (call : Call) : Option Int64 := call.arguments.getLast?.bind integer?

/-- A call that tells no amount of experience in its text and no count in its title. -/
structure Untold (call : Call) : Prop where
  experience : findFirst? experienceAmount? call.text = none
  count : (title? call).bind (findFirst? count?) = none

/-- The amounts of a lamp, value and quantity, are those at their places among the arguments: the value
before the last argument, the quantity in the last. -/
def InPlace (call : Call) (lamp : LampReward) : Prop :=
  lamp.value = (numberBeforeLast? call).getD 0 ∧ lamp.quantity = (numberAtLast? call).getD 1

section

variable (call : Call)

/-- The first whole number among the arguments stands before the last one, or else in it. -/
theorem valueOfArgument?_eq :
    valueOfArgument? call = (numberBeforeLast? call).or (numberAtLast? call) := by
  rw [valueOfArgument?, numberBeforeLast?, numberAtLast?]
  cases split : call.arguments.getLast? with
  | none =>
    rw [List.getLast?_eq_none_iff.mp split]
    rfl
  | some last =>
    obtain ⟨inner, whole⟩ := List.getLast?_eq_some_iff.mp split
    rw [whole, List.findSome?_append, List.dropLast_concat, List.findSome?_singleton]
    rfl

/-- The last argument counts the lamps when a whole number stands before it. -/
theorem quantityOfArgument?_eq :
    quantityOfArgument? call = (numberBeforeLast? call).bind fun _ => numberAtLast? call := by
  have counted : quantityOfArgument? call = (numberAtLast? call).bind fun quantity =>
      if (numberBeforeLast? call).isSome then some quantity else none := by
    have before : (call.arguments.dropLast.any fun argument => (integer? argument).isSome) =
        (numberBeforeLast? call).isSome := by
      rw [Bool.eq_iff_iff, List.any_eq_true, numberBeforeLast?, List.findSome?_isSome_iff]
    rw [quantityOfArgument?, before, numberAtLast?]
    cases call.arguments.getLast? <;> rfl
  rw [counted]
  cases numberBeforeLast? call <;> cases numberAtLast? call <;> rfl

end

section

variable {source : Text} {call : Call}

/-- The amounts of a lamp whose call tells none are read from the arguments. -/
theorem Untold.amounts (untold : Untold call) :
    (ofCall call).value = ((numberBeforeLast? call).or (numberAtLast? call)).getD 0 ∧
      (ofCall call).quantity = ((numberBeforeLast? call).bind fun _ => numberAtLast? call).getD 1 := by
  have value : valueOfText? call = none := by rw [valueOfText?, untold.experience, Option.bind_none]
  have quantity : quantityOfTitle? call = none := by
    rw [quantityOfTitle?, untold.count, Option.bind_none]
  constructor
  · rw [ofCall, value, Option.orElse_none, valueOfArgument?_eq]
  · rw [ofCall, quantity, Option.orElse_none, quantityOfArgument?_eq]

/-- The amounts of a lamp that is recognised by its title and whose call tells none in its text. When
a whole number stands before the last argument, the first such one is the value, and the quantity is
the last argument, if it is a whole number too, or one. When none does, the last argument is the value,
if it is a whole number, or else the value is zero; and the quantity is one. So the amounts stand in
their places except where the last argument is the only whole number. -/
theorem amounts_by_arguments (selected : Selects source .byTitle call) (untold : Untold call) :
    ∃ lamp, (reward source).value = some lamp ∧
      (∀ value, numberBeforeLast? call = some value →
        lamp.value = value ∧ lamp.quantity = (numberAtLast? call).getD 1) ∧
      (numberBeforeLast? call = none →
        lamp.value = (numberAtLast? call).getD 0 ∧ lamp.quantity = 1) ∧
      (InPlace call lamp ↔ ((numberBeforeLast? call).isSome ∨ numberAtLast? call = none)) := by
  obtain ⟨value, quantity⟩ := untold.amounts
  refine ⟨ofCall call, by rw [reward_of_selects selected]; rfl, ?_, ?_, ?_⟩
  · intro inner found
    rw [value, quantity, found]
    exact ⟨rfl, rfl⟩
  · intro missing
    rw [value, quantity, missing]
    exact ⟨rfl, rfl⟩
  · rw [InPlace, value, quantity]
    cases numberBeforeLast? call with
    | some inner => simp
    | none =>
      cases numberAtLast? call with
      | none => simp
      | some last =>
        constructor
        · -- The whole number would have to be zero as a value and one as a quantity.
          rintro ⟨zero, one⟩
          have apart : (1 : Int64) ≠ 0 := by decide
          exact absurd (Eq.trans one zero) apart
        · rintro (before | missing)
          · cases before
          · cases missing

end

/-- An item with the number of lamps in its last argument, and no other amount. -/
def antiqueSource : Text := "new ItemReward(\"Antique lamp\", ItemID.ANTIQUE_LAMP, 2)".toList

def antiqueCall : Call where
  start := 0
  stop := 54
  argsStart := 15
  args := "\"Antique lamp\", ItemID.ANTIQUE_LAMP, 2".toList
  text := antiqueSource

/-- The number of lamps is taken for the experience that one of them gives. -/
theorem count_taken_for_value :
    ¬ ∀ source call, Selects source .byTitle call → 3 ≤ call.arguments.length → Untold call →
      ∃ lamp, (reward source).value = some lamp ∧ InPlace call lamp := by
  intro inPlace
  have selected : Selects antiqueSource .byTitle antiqueCall :=
    call?_eq_some_iff.mp (by decide +kernel)
  obtain ⟨lamp, given, value, -⟩ := inPlace antiqueSource antiqueCall selected (by decide +kernel)
    ⟨by decide +kernel, by decide +kernel⟩
  have taken : (reward antiqueSource).value = some ⟨"Any", 2, 1⟩ := by decide +kernel
  have missing : (numberBeforeLast? antiqueCall).getD 0 = 0 := by decide +kernel
  cases given.symm.trans taken
  exact absurd (value.trans missing) (by decide)

/-- An unlock with a value and a number of lamps among its arguments. -/
def genieSource : Text := "new UnlockReward(\"An experience LAMP\", 750, 4)".toList

def genieCall : Call where
  start := 0
  stop := 46
  argsStart := 17
  args := "\"An experience LAMP\", 750, 4".toList
  text := genieSource

theorem amounts_by_arguments_genie :
    Selects genieSource .byTitle genieCall ∧ Untold genieCall ∧
      ∃ lamp, (reward genieSource).value = some lamp ∧ lamp.value = 750 ∧ lamp.quantity = 4 := by
  have selected : Selects genieSource .byTitle genieCall := call?_eq_some_iff.mp (by decide +kernel)
  have untold : Untold genieCall := ⟨by decide +kernel, by decide +kernel⟩
  obtain ⟨lamp, given, inner, -⟩ := amounts_by_arguments selected untold
  obtain ⟨value, quantity⟩ := inner 750 (by decide +kernel)
  exact ⟨selected, untold, lamp, given, value, quantity.trans (by decide +kernel)⟩

end QuestRecords.Lamp
