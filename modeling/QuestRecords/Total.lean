/-! Totals: a count taken of every member of a list, and added up. -/
namespace QuestRecords

/-- The sum of a count over all members of a list. -/
def total (count : α → Nat) (values : List α) : Nat :=
  values.foldl (fun sum value => sum + count value) 0

theorem foldl_count (count : α → Nat) (values : List α) (start : Nat) :
    values.foldl (fun sum value => sum + count value) start = start + total count values := by
  induction values generalizing start with
  | nil => rfl
  | cons value rest ih =>
    rw [total, List.foldl_cons, List.foldl_cons, ih, ih (0 + count value), Nat.zero_add,
      Nat.add_assoc]

@[simp] theorem total_nil (count : α → Nat) : total count [] = 0 := rfl

@[simp] theorem total_cons (count : α → Nat) (value : α) (rest : List α) :
    total count (value :: rest) = count value + total count rest := by
  rw [total, List.foldl_cons, foldl_count, Nat.zero_add]

@[simp] theorem total_append (count : α → Nat) (left right : List α) :
    total count (left ++ right) = total count left + total count right := by
  induction left with
  | nil => simp
  | cons value rest ih => simp [ih, Nat.add_assoc]

@[simp] theorem total_reverse (count : α → Nat) (values : List α) :
    total count values.reverse = total count values := by
  induction values with
  | nil => rfl
  | cons value rest ih => simp [ih, Nat.add_comm]

end QuestRecords
