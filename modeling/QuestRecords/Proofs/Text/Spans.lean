import QuestRecords.Text.Basic

namespace QuestRecords.Text

variable {test : Char → Bool} {front rest : Text}

theorem takeWhile_of_stops (stops : rest.head?.any test = false) : rest.takeWhile test = [] := by
  cases rest with
  | nil => rfl
  | cons c rest =>
    apply List.takeWhile_cons_of_neg
    simpa using stops

theorem takeWhile_append (passes : ∀ c ∈ front, test c = true)
    (stops : rest.head?.any test = false) : (front ++ rest).takeWhile test = front := by
  rw [List.takeWhile_append_of_pos passes, takeWhile_of_stops stops, List.append_nil]

theorem dropWhile_append (passes : ∀ c ∈ front, test c = true)
    (stops : rest.head?.any test = false) : (front ++ rest).dropWhile test = rest := by
  have whole := List.takeWhile_append_dropWhile (p := test) (l := front ++ rest)
  rw [takeWhile_append passes stops] at whole
  exact List.append_cancel_left whole

theorem passes_takeWhile (test : Char → Bool) (text : Text) :
    ∀ c ∈ text.takeWhile test, test c = true :=
  List.all_eq_true.mp List.all_takeWhile

theorem stops_dropWhile (test : Char → Bool) (text : Text) :
    (text.dropWhile test).head?.any test = false := by
  cases ended : (text.dropWhile test).head? with
  | none => rfl
  | some c =>
    have stops := List.head?_dropWhile_not test text
    rw [ended] at stops
    exact stops

end QuestRecords.Text
