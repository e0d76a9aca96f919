import QuestRecords.Text.Site

/-! Searching a text stretch by stretch. What a search finds in a text is what it finds at the
places of each stretch in turn, where a reader sees beyond the stretch that it starts in. A stretch
is silent when what the reader has to pass does not stand in it and cannot go on behind it. -/
namespace QuestRecords.Text

/-- A beginning in which a character does not occur ends before that character. -/
theorem prefix_of_prefix_append_cons {beginning stretch tail : Text} {d : Char}
    (begins : beginning <+: stretch ++ d :: tail) (absent : d ∉ beginning) :
    beginning <+: stretch := by
  by_cases fits : beginning.length ≤ stretch.length
  · exact List.prefix_of_prefix_length_le begins (List.prefix_append _ _) fits
  · have stop : stretch ++ [d] <+: stretch ++ d :: tail := ⟨tail, by simp⟩
    have beyond : stretch ++ [d] <+: beginning := by
      apply List.prefix_of_prefix_length_le stop begins
      rw [List.length_append, List.length_singleton]
      omega
    exact absurd (beyond.subset (List.mem_append_right stretch List.mem_cons_self)) absent

variable {α : Type}

/-- What a reader finds at the places of a stretch that stands between other text. -/
def foundIn (read : Site → Option α) (behind : Text) : Text → Text → List α
  | [], _ => []
  | c :: stretch, tail =>
    (read ⟨behind, c :: (stretch ++ tail)⟩).toList ++ foundIn read (c :: behind) stretch tail

theorem filterMap_sitesFrom (read : Site → Option α) (behind text : Text) :
    (sitesFrom behind text).filterMap read = foundIn read behind text [] := by
  induction text generalizing behind with
  | nil => rfl
  | cons c text ih =>
    rw [sitesFrom, foundIn, ← ih, List.append_nil, List.filterMap_cons]
    cases read ⟨behind, c :: text⟩ <;> rfl

theorem findAll_eq_foundIn (read : Site → Option α) (text : Text) :
    findAll read text = foundIn read [] text [] :=
  filterMap_sitesFrom read [] text

theorem foundIn_append (read : Site → Option α) (behind left right tail : Text) :
    foundIn read behind (left ++ right) tail =
      foundIn read behind left (right ++ tail) ++
        foundIn read (left.reverse ++ behind) right tail := by
  induction left generalizing behind with
  | nil => rfl
  | cons c left ih =>
    rw [List.cons_append, foundIn, foundIn, ih, List.append_assoc left, List.append_assoc,
      List.reverse_cons, List.append_assoc, List.singleton_append]

/-- Stretches that are silent one behind the other are silent together. -/
theorem foundIn_append_eq_nil {read : Site → Option α} {behind left right tail : Text}
    (first : foundIn read behind left (right ++ tail) = [])
    (later : foundIn read (left.reverse ++ behind) right tail = []) :
    foundIn read behind (left ++ right) tail = [] := by
  rw [foundIn_append, first, later, List.append_nil]

/-- What is read further of what a reader found is found by reading further at its places. -/
theorem foundIn_bind {β : Type} (read : Site → Option α) (further : α → Option β)
    (behind stretch tail : Text) :
    foundIn (fun site => (read site).bind further) behind stretch tail =
      (foundIn read behind stretch tail).filterMap further := by
  induction stretch generalizing behind with
  | nil => rfl
  | cons c stretch ih =>
    rw [foundIn, foundIn, ih, List.filterMap_append]
    cases read ⟨behind, c :: (stretch ++ tail)⟩ with
    | none => rfl
    | some found => cases result : further found <;> simp [result]

theorem findFirst?_append {read : Site → Option α} {before ahead : Text} {c : Char} {found : α}
    (silent : foundIn read [] before (c :: ahead) = [])
    (here : read ⟨before.reverse, c :: ahead⟩ = some found) :
    findFirst? read (before ++ c :: ahead) = some found := by
  rw [findFirst?, ← List.head?_filterMap, sites, filterMap_sitesFrom, foundIn_append,
    List.append_nil, List.append_nil, silent, foundIn, List.append_nil, here]
  rfl

theorem findFirst?_eq_none_iff {read : Site → Option α} {text : Text} :
    findFirst? read text = none ↔
      ∀ before ahead, text = before ++ ahead → ahead ≠ [] →
        read ⟨before.reverse, ahead⟩ = none := by
  rw [findFirst?, List.findSome?_eq_none_iff]
  constructor
  · rintro silent before ahead rfl more
    apply silent
    rw [mem_sites_iff]
    exact ⟨by rw [Site.text, List.reverse_reverse], more⟩
  · intro silent site place
    obtain ⟨text, more⟩ := (mem_sites_iff site _).mp place
    have silent := silent site.behind.reverse site.ahead text.symm more
    rwa [List.reverse_reverse] at silent

/-- What is found first stands before everything else that could be found. -/
theorem findSome?_sitesFrom_leftmost {read : Site → Option α} {behind text : Text} {found : α}
    (first : (sitesFrom behind text).findSome? read = some found) :
    ∃ before ahead, text = before ++ ahead ∧ read ⟨before.reverse ++ behind, ahead⟩ = some found ∧
      ∀ other after, text = other ++ after → after ≠ [] →
        (read ⟨other.reverse ++ behind, after⟩).isSome = true → before <+: other := by
  induction text generalizing behind with
  | nil => cases first
  | cons c text ih =>
    rw [sitesFrom, List.findSome?_cons] at first
    cases here : read ⟨behind, c :: text⟩ with
    | some result =>
      rw [here] at first
      exact ⟨[], c :: text, rfl, here.trans first, fun other _ _ _ _ => List.nil_prefix⟩
    | none =>
      rw [here] at first
      obtain ⟨before, ahead, rfl, shown, leftmost⟩ := ih first
      refine ⟨c :: before, ahead, rfl, by simpa using shown, ?_⟩
      intro other after split more also
      cases other with
      | nil =>
        rw [List.nil_append] at split
        rw [← split, List.reverse_nil, List.nil_append, here] at also
        cases also
      | cons d other =>
        obtain ⟨rfl, rest⟩ := List.cons.inj split
        exact List.cons_prefix_cons.mpr
          ⟨rfl, leftmost other after rest more (by simpa using also)⟩

section

variable {read : Site → Option α} {behind stretch tail : Text}

theorem foundIn_eq_nil
    (silent : ∀ before c after, stretch = before ++ c :: after →
      read ⟨before.reverse ++ behind, c :: (after ++ tail)⟩ = none) :
    foundIn read behind stretch tail = [] := by
  induction stretch generalizing behind with
  | nil => rfl
  | cons c stretch ih =>
    have first : read ⟨behind, c :: (stretch ++ tail)⟩ = none := silent [] c stretch rfl
    rw [foundIn, first, Option.toList_none, List.nil_append]
    apply ih
    intro before d after split
    have later := silent (c :: before) d after (by rw [split, List.cons_append])
    simpa using later

theorem eq_false_of_any {test : Char → Bool} (none : stretch.any test = false) :
    ∀ c ∈ stretch, test c = false := by
  simpa using none

/-- A stretch of characters at none of which the reader starts. -/
theorem foundIn_of_heads
    (heads : ∀ c ∈ stretch, ∀ behind ahead, read ⟨behind, c :: ahead⟩ = none) :
    foundIn read behind stretch tail = [] := by
  apply foundIn_eq_nil
  intro before c after split
  exact heads c (by simp [split]) _ _

/-- A stretch that nothing which bears the mark of what the reader passes stands in, before a
character that does not occur in what it passes. -/
theorem foundIn_of_mark (mark : Text → Prop) {d : Char}
    (passes : ∀ site found, read site = some found →
      ∃ passed, passed <+: site.ahead ∧ d ∉ passed ∧ mark passed)
    (unmarked : ∀ part, part <:+: stretch → ¬ mark part) :
    foundIn read behind stretch (d :: tail) = [] := by
  apply foundIn_eq_nil
  intro before c after split
  cases result : read ⟨before.reverse ++ behind, c :: (after ++ d :: tail)⟩ with
  | none => rfl
  | some found =>
    obtain ⟨passed, begins, absent, marked⟩ := passes _ found result
    have inside : passed <+: c :: after := prefix_of_prefix_append_cons begins absent
    have among : passed <:+: stretch := by
      rw [split]
      exact inside.isInfix.trans (List.suffix_append before _).isInfix
    exact absurd marked (unmarked passed among)

end

end QuestRecords.Text
