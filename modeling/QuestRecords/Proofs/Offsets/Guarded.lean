import QuestRecords.Diagnostics.Logged
import QuestRecords.Proofs.Offsets.Checked

namespace QuestRecords.Offsets

abbrev Guarded := ExceptT Fault Logged

instance : MonadLift Checked Guarded := ⟨fun outcome => ExceptT.mk (pure outcome)⟩

@[simp] theorem liftM_ok (value : α) : (liftM (.ok value : Checked α) : Guarded α) = pure value :=
  rfl

/-- A loop over a list does without faults what its steps do without faults. -/
theorem foldlM_lift {step : State → α → Guarded State} {result : State → α → Logged State}
    {values : List α}
    (each : ∀ value ∈ values, ∀ state, step state value = liftM (result state value))
    (start : State) : values.foldlM step start = liftM (values.foldlM result start) := by
  induction values generalizing start with
  | nil => rfl
  | cons value rest ih =>
    have later := ih fun other member => each other (List.mem_cons_of_mem _ member)
    rw [List.foldlM_cons, List.foldlM_cons, each value List.mem_cons_self, liftM_bind]
    simp only [later]

/-- A loop over the places of some members of a list, when the others change nothing. -/
theorem foldlM_filterMap_lift {place : γ → Option α} {found : γ → Option β}
    {step : State → α → Guarded State} {result : State → β → Logged State} {values : List γ}
    (atPlace : ∀ value ∈ values, ∀ here, place value = some here → ∀ state,
      step state here = liftM ((found value).elim (pure state) (result state)))
    (elsewhere : ∀ value ∈ values, place value = none → found value = none) (start : State) :
    (values.filterMap place).foldlM step start =
      liftM ((values.filterMap found).foldlM result start) := by
  induction values generalizing start with
  | nil => rfl
  | cons value rest ih =>
    have ih := ih (fun other member => atPlace other (List.mem_cons_of_mem _ member))
      (fun other member => elsewhere other (List.mem_cons_of_mem _ member))
    cases here : place value with
    | none =>
      rw [List.filterMap_cons_none here, ih,
        List.filterMap_cons_none (elsewhere value List.mem_cons_self here)]
    | some spot =>
      rw [List.filterMap_cons_some here, List.foldlM_cons,
        atPlace value List.mem_cons_self spot here, List.filterMap_cons]
      cases found value with
      | none =>
        simp only [Option.elim_none, liftM_pure, pure_bind]
        exact ih start
      | some read =>
        simp only [Option.elim_some, List.foldlM_cons, liftM_bind, ih]

theorem mapM_lift {step : α → Guarded β} {result : α → Logged β} {values : List α}
    (each : ∀ value ∈ values, step value = liftM (result value)) :
    values.mapM step = liftM (values.mapM result) := by
  induction values with
  | nil => rfl
  | cons value rest ih =>
    have later := ih fun other member => each other (List.mem_cons_of_mem _ member)
    rw [List.mapM_cons, List.mapM_cons, each value List.mem_cons_self, later, liftM_bind]
    simp only [liftM_bind, liftM_pure]

end QuestRecords.Offsets
