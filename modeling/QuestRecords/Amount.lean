/-! Whole numbers of fixed width: amounts have 64 bits with sign, coordinates 32. A number that
does not fit is no amount; nothing is ever cut off. -/
namespace QuestRecords.Amount

/-- A number as an amount of 64 bits, if it fits. -/
def long? (value : Int) : Option Int64 :=
  if Int64.minValue.toInt ≤ value ∧ value ≤ Int64.maxValue.toInt then some (Int64.ofInt value)
  else none

/-- A number as a coordinate of 32 bits, if it fits. -/
def int? (value : Int) : Option Int32 :=
  if Int32.minValue.toInt ≤ value ∧ value ≤ Int32.maxValue.toInt then some (Int32.ofInt value)
  else none

theorem toInt_of_long? {value : Int} {amount : Int64} (fits : long? value = some amount) :
    amount.toInt = value := by
  simp only [long?, Option.ite_none_right_eq_some, Option.some.injEq] at fits
  obtain ⟨⟨low, high⟩, rfl⟩ := fits
  exact Int64.toInt_ofInt_of_le low (Int.lt_of_le_sub_one high)

theorem toInt_of_int? {value : Int} {amount : Int32} (fits : int? value = some amount) :
    amount.toInt = value := by
  simp only [int?, Option.ite_none_right_eq_some, Option.some.injEq] at fits
  obtain ⟨⟨low, high⟩, rfl⟩ := fits
  exact Int32.toInt_ofInt_of_le low (Int.lt_of_le_sub_one high)

@[simp] theorem long?_toInt (amount : Int64) : long? amount.toInt = some amount := by
  rw [long?, if_pos ⟨amount.le_toInt, Int.le_sub_one_of_lt amount.toInt_lt⟩, Int64.ofInt_toInt]

@[simp] theorem int?_toInt (amount : Int32) : int? amount.toInt = some amount := by
  rw [int?, if_pos ⟨amount.le_toInt, Int.le_sub_one_of_lt amount.toInt_lt⟩, Int32.ofInt_toInt]

end QuestRecords.Amount
