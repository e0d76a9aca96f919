import QuestRecords.Text.Basic

namespace QuestRecords.Text

/-- A text splits at an offset exactly into a beginning of that width and the rest. -/
theorem splitAt?_eq_some_iff {text before after : Text} {offset : Nat} :
    text.splitAt? offset = some (before, after) ↔
      text = before ++ after ∧ width before = offset := by
  fun_induction splitAt? text offset generalizing before after with
  | case1 text =>
    constructor
    · intro found
      cases found
      simp
    · rintro ⟨rfl, narrow⟩
      cases before with
      | nil => rfl
      | cons c before =>
        have := c.utf8Size_pos
        rw [width_cons] at narrow
        omega
  | case2 offset =>
    constructor
    · intro found
      cases found
    · rintro ⟨empty, narrow⟩
      obtain ⟨rfl, rfl⟩ := List.nil_eq_append_iff.mp empty
      simp at narrow
  | case3 c rest offset fits ih =>
    rw [Option.map_eq_some_iff]
    constructor
    · rintro ⟨⟨inner, left⟩, found, same⟩
      cases same
      obtain ⟨rfl, narrow⟩ := ih.mp found
      refine ⟨rfl, ?_⟩
      rw [width_cons, narrow]
      omega
    · rintro ⟨same, narrow⟩
      cases before with
      | nil => simp at narrow
      | cons first inner =>
        obtain ⟨rfl, rfl⟩ := List.cons.inj same
        rw [width_cons] at narrow
        exact ⟨(inner, after), ih.mpr ⟨rfl, by omega⟩, rfl⟩
  | case4 c rest offset wide =>
    constructor
    · intro found
      cases found
    · rintro ⟨same, narrow⟩
      cases before with
      | nil => simp at narrow
      | cons first inner =>
        obtain ⟨rfl, rfl⟩ := List.cons.inj same
        rw [width_cons] at narrow
        omega

@[simp] theorem splitAt?_width (before after : Text) :
    (before ++ after).splitAt? (width before) = some (before, after) :=
  splitAt?_eq_some_iff.mpr ⟨rfl, rfl⟩

theorem append_inj_of_width {before after left right : Text}
    (same : before ++ after = left ++ right) (wide : width before = width left) :
    before = left ∧ after = right := by
  have found := splitAt?_width before after
  rw [same, wide, splitAt?_width] at found
  cases found
  exact ⟨rfl, rfl⟩

theorem slice?_append (before between after : Text) :
    (before ++ between ++ after).slice? (width before) (width (before ++ between)) =
      some between := by
  simp [slice?, List.append_assoc]

theorem slice?_of_append (before after : Text) {text between : Text} {start stop : Nat}
    (same : text = before ++ (between ++ after)) (starts : start = width before)
    (stops : stop = width before + width between) : text.slice? start stop = some between := by
  subst same starts stops
  rw [← List.append_assoc, ← width_append, slice?_append]

end QuestRecords.Text
