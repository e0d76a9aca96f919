import QuestRecords.Proofs.Source.SequencedCalls

/-! Which call gives the lamp of a source. The first explicit lamp reward is taken, wherever it stands,
and without one the first item or unlock whose title speaks of a lamp. The lamp depends on the text of
that call alone; what is written behind a source that has its lamp matters only if it is an explicit
lamp reward. -/
namespace QuestRecords.Lamp

open Source Text

/-- A call whose first argument is a literal that speaks of a lamp. -/
def SpeaksOfLamp (call : Call) : Prop :=
  ∃ first others title, call.arguments = first :: others ∧
    Literal.ofArgument? first = some title ∧ "lamp".toList <:+: lower title

/-- A call of an item or an unlock that speaks of a lamp. -/
def NamesLamp (source : Text) (call : Call) : Prop :=
  (call ∈ constructorCalls source "ItemReward".toList ∨
    call ∈ constructorCalls source "UnlockReward".toList) ∧ SpeaksOfLamp call

/-- The call that gives the lamp of a source: of the explicit lamp rewards the leftmost one, and when
there is none, the leftmost of the items and unlocks that speak of a lamp. -/
inductive Selects (source : Text) : Match → Call → Prop where
  | explicit (found : call ∈ constructorCalls source "LampReward".toList)
      (leftmost : ∀ other ∈ constructorCalls source "LampReward".toList,
        call.start ≤ other.start) :
      Selects source .explicit call
  | byTitle (unrewarded : constructorCalls source "LampReward".toList = [])
      (named : NamesLamp source call)
      (leftmost : ∀ other, NamesLamp source other → call.start ≤ other.start) :
      Selects source .byTitle call

theorem contains_iff {part text : Text} : contains part text = true ↔ part <:+: text := by
  have isPrefix : ∀ text, (after? part text).isSome = true ↔ part <+: text := by
    intro text
    rw [Option.isSome_iff_exists]
    exact exists_congr fun rest => after?_eq_some_iff.trans eq_comm
  induction text with
  | nil => rw [contains, Bool.or_false, isPrefix, List.infix_nil, List.prefix_nil]
  | cons c text ih =>
    rw [contains, Bool.or_eq_true, List.infix_cons_iff]
    exact or_congr (isPrefix (c :: text)) ih

theorem isNamedLamp_iff {call : Call} : isNamedLamp call = true ↔ SpeaksOfLamp call := by
  rw [isNamedLamp, Call.firstArgument?, SpeaksOfLamp]
  cases call.arguments with
  | nil => simp
  | cons first others =>
    cases title : Literal.ofArgument? first with
    | none => simp [title]
    | some title => simp [title, contains_iff]

theorem lampAt?_eq_some_iff {typeName : Text} {site : Site} {call : Call} :
    Offsets.lampAt? typeName site = some call ↔
      Call.at? typeName site = some call ∧ SpeaksOfLamp call := by
  rw [Offsets.lampAt?, Option.filter_eq_some_iff, isNamedLamp_iff]

/-- What is read as a named lamp is an item or an unlock that speaks of a lamp. -/
theorem namedLampAt?_eq_some_iff {site : Site} {call : Call} :
    namedLampAt? site = some call ↔
      (Call.at? "ItemReward".toList site = some call ∨
        Call.at? "UnlockReward".toList site = some call) ∧ SpeaksOfLamp call := by
  rw [Offsets.namedLampAt?_eq, Option.or_eq_some_iff, lampAt?_eq_some_iff, lampAt?_eq_some_iff,
    or_and_right]
  refine or_congr_right (and_iff_right_of_imp ?_)
  rintro ⟨unlock, -⟩
  refine Option.eq_none_iff_forall_ne_some.mpr fun item read => ?_
  exact Offsets.not_unlock_of_item (lampAt?_eq_some_iff.mp read).1 unlock

theorem mem_findAll_namedLampAt? {source : Text} {call : Call} :
    call ∈ findAll namedLampAt? source ↔ NamesLamp source call := by
  rw [findAll, List.mem_filterMap, NamesLamp, constructorCalls, constructorCalls, findAll, findAll,
    List.mem_filterMap, List.mem_filterMap, ← exists_or, ← exists_and_right]
  refine exists_congr fun site => ?_
  rw [namedLampAt?_eq_some_iff, ← and_or_left, and_assoc]

/-- The first call that a reader finds is its leftmost one. -/
theorem findFirst?_eq_some_iff {read : Site → Option Call}
    (starts : ∀ site call, read site = some call → call.start = site.offset) {source : Text}
    {call : Call} : findFirst? read source = some call ↔
      call ∈ findAll read source ∧ ∀ other ∈ findAll read source, call.start ≤ other.start := by
  rw [findFirst?_eq_head?]
  exact head?_eq_some_iff_of_pairwise (pairwise_filterMap_sitesFrom starts [] source)

section

variable {source : Text} {call : Call}

theorem findFirst?_namedLampAt?_iff : findFirst? namedLampAt? source = some call ↔
    NamesLamp source call ∧ ∀ other, NamesLamp source other → call.start ≤ other.start := by
  have starts : ∀ site call, namedLampAt? site = some call → call.start = site.offset := by
    intro site call read
    exact (namedLampAt?_eq_some_iff.mp read).1.elim Offsets.start_of_at? Offsets.start_of_at?
  simp only [findFirst?_eq_some_iff starts, mem_findAll_namedLampAt?]

/-- The call that is taken is the selected one. -/
theorem call?_eq_some_iff {how : Match} :
    call? source = some (how, call) ↔ Selects source how call := by
  have rewarded : ∀ call, findFirst? (Call.at? "LampReward".toList) source = some call ↔
      call ∈ constructorCalls source "LampReward".toList ∧
        ∀ other ∈ constructorCalls source "LampReward".toList, call.start ≤ other.start :=
    fun _ => findFirst?_eq_some_iff fun _ _ => Offsets.start_of_at?
  have listed := findFirst?_eq_head? (Call.at? "LampReward".toList) source
  rw [call?]
  cases first : findFirst? (Call.at? "LampReward".toList) source with
  | some reward =>
    constructor
    · rintro ⟨⟩
      obtain ⟨found, leftmost⟩ := (rewarded _).mp first
      exact .explicit found leftmost
    · rintro (⟨found, leftmost⟩ | ⟨unrewarded⟩)
      · rw [Option.some.inj (first.symm.trans ((rewarded call).mpr ⟨found, leftmost⟩))]
      · exact absurd ((rewarded reward).mp first).1 (unrewarded ▸ List.not_mem_nil)
  | none =>
    have unrewarded : constructorCalls source "LampReward".toList = [] :=
      List.head?_eq_none_iff.mp (listed.symm.trans first)
    constructor
    · intro taken
      obtain ⟨other, read, same⟩ := Option.map_eq_some_iff.mp taken
      cases same
      obtain ⟨named, leftmost⟩ := findFirst?_namedLampAt?_iff.mp read
      exact .byTitle unrewarded named leftmost
    · rintro (⟨found, -⟩ | ⟨-, named, leftmost⟩)
      · exact absurd found (unrewarded ▸ List.not_mem_nil)
      · exact Option.map_eq_some_iff.mpr
          ⟨call, findFirst?_namedLampAt?_iff.mpr ⟨named, leftmost⟩, rfl⟩

/-- A source gives no lamp exactly when it has neither an explicit lamp reward nor an item or unlock
that speaks of a lamp. -/
theorem value_reward_eq_none_iff : (reward source).value = none ↔
    constructorCalls source "LampReward".toList = [] ∧ ∀ call, ¬NamesLamp source call := by
  have taken : (reward source).value = (call? source).map fun found => ofCall found.2 := by
    rw [reward]
    cases call? source <;> rfl
  have named : findFirst? namedLampAt? source = none ↔ ∀ call, ¬NamesLamp source call := by
    rw [findFirst?_eq_head?, List.head?_eq_none_iff, List.eq_nil_iff_forall_not_mem]
    simp only [mem_findAll_namedLampAt?]
  have rewarded : findFirst? (Call.at? "LampReward".toList) source = none ↔
      constructorCalls source "LampReward".toList = [] := by
    rw [findFirst?_eq_head?, List.head?_eq_none_iff, constructorCalls]
  rw [taken, Option.map_eq_none_iff, ← rewarded, ← named, call?]
  cases findFirst? (Call.at? "LampReward".toList) source <;> simp

end

section

variable {source : Text} {how : Match} {call : Call}

/-- The lamp is that of the selected call; what is told of it is how and where the call was found. -/
theorem reward_of_selects (selected : Selects source how call) :
    reward source = do
      Logged.raise (.debug "Lamp reward matched"
        [("matcher", how.label), ("offset", toString call.start)])
      return some (ofCall call) := by
  rw [reward, call?_eq_some_iff.mpr selected]

/-- The types of reward whose calls may give a lamp. -/
def kinds : List String := ["LampReward", "ItemReward", "UnlockReward"]

theorem Selects.exists_kind (selected : Selects source how call) :
    ∃ kind ∈ kinds, call ∈ constructorCalls source kind.toList := by
  cases selected with
  | explicit found => exact ⟨"LampReward", by simp [kinds], found⟩
  | byTitle _ named =>
    rcases named.1 with item | unlock
    · exact ⟨"ItemReward", by simp [kinds], item⟩
    · exact ⟨"UnlockReward", by simp [kinds], unlock⟩

/-- Where a call stands does not matter for its lamp. -/
theorem ofCall_congr {left right : Call} (args : left.args = right.args)
    (text : left.text = right.text) : ofCall left = ofCall right := by
  cases left
  cases right
  cases args
  cases text
  rfl

/-- The lamp of a selected call depends on the text of the call only. -/
theorem ofCall_eq_of_text_eq {other : Text} {otherHow : Match} {otherCall : Call}
    (selected : Selects source how call) (otherSelected : Selects other otherHow otherCall)
    (same : call.text = otherCall.text) : ofCall call = ofCall otherCall := by
  have plain : ∀ kind ∈ kinds, '(' ∉ kind.toList := by decide +kernel
  obtain ⟨kind, known, found⟩ := selected.exists_kind
  obtain ⟨otherKind, otherKnown, otherFound⟩ := otherSelected.exists_kind
  have args : call.args = otherCall.args :=
    args_eq_of_text_eq (plain _ known) found (plain _ otherKnown) otherFound same
  exact ofCall_congr args same

/-- What is written behind a source in which the calls are closed does not change which of its calls
gives the lamp, unless an explicit lamp reward is written there. -/
theorem Selects.sequence {later : Text} (selected : Selects source how call)
    (closes : ∀ kind ∈ kinds, ClosesCalls kind.toList source)
    (unrewarded : constructorCalls later "LampReward".toList = []) :
    Selects (source ++ ';' :: later) how call := by
  have absent : ∀ kind ∈ kinds, ';' ∉ kind.toList := by decide +kernel
  have calls : ∀ kind ∈ kinds, constructorCalls (source ++ ';' :: later) kind.toList =
      constructorCalls source kind.toList ++
        (constructorCalls later kind.toList).map (Call.shifted (width source + 1)) :=
    fun kind known => constructorCalls_sequence (absent kind known) (closes kind known) later
  have rewards := calls "LampReward" (by simp [kinds])
  rw [unrewarded, List.map_nil, List.append_nil] at rewards
  cases selected with
  | explicit found leftmost =>
    rw [← rewards] at found leftmost
    exact .explicit found leftmost
  | byTitle none named leftmost =>
    have items := calls "ItemReward" (by simp [kinds])
    have unlocks := calls "UnlockReward" (by simp [kinds])
    refine .byTitle (rewards.trans none) ⟨?_, named.2⟩ ?_
    · rw [items, unlocks]
      exact named.1.imp (List.mem_append_left _) (List.mem_append_left _)
    · rintro other ⟨found, speaks⟩
      rw [items, unlocks, List.mem_append, List.mem_append, or_or_or_comm, ← List.mem_append,
        ← List.mem_append, ← List.map_append] at found
      rcases found with here | behind
      · exact leftmost other ⟨List.mem_append.mp here, speaks⟩
      · have inside := named.1.elim start_le_width start_le_width
        obtain ⟨call, -, rfl⟩ := List.mem_map.mp behind
        exact Nat.le_trans inside (by simp only [Call.shifted]; omega)

end

/-- A source gives no lamp exactly when it has neither an explicit lamp reward nor an item or unlock
that speaks of a lamp. Otherwise one call gives the lamp: the leftmost explicit lamp reward, also when
other calls that speak of a lamp stand before it, or else the leftmost item or unlock that speaks of a
lamp. Sources whose selected calls read alike give the same lamp. And a source with a lamp whose calls
are closed gives the same lamp, and tells the same, whatever follows behind a semicolon that is no
explicit lamp reward. -/
theorem reward_of_one_call (source : Text) :
    ((reward source).value = none ↔
      constructorCalls source "LampReward".toList = [] ∧ ∀ call, ¬NamesLamp source call) ∧
    (∀ how call, call? source = some (how, call) ↔ Selects source how call) ∧
    (∀ how call, Selects source how call →
      reward source = do
        Logged.raise (.debug "Lamp reward matched"
          [("matcher", how.label), ("offset", toString call.start)])
        return some (ofCall call)) ∧
    (∀ how call other otherHow otherCall, Selects source how call →
      Selects other otherHow otherCall → call.text = otherCall.text →
      (reward source).value = (reward other).value) ∧
    ∀ how call later, Selects source how call →
      (∀ kind ∈ kinds, ClosesCalls kind.toList source) →
      constructorCalls later "LampReward".toList = [] →
      reward (source ++ ';' :: later) = reward source := by
  refine ⟨value_reward_eq_none_iff, fun _ _ => call?_eq_some_iff, fun _ _ => reward_of_selects,
    ?_, ?_⟩
  · intro how call other otherHow otherCall selected otherSelected same
    rw [reward_of_selects selected, reward_of_selects otherSelected]
    exact congrArg some (ofCall_eq_of_text_eq selected otherSelected same)
  · intro how call later selected closes unrewarded
    rw [reward_of_selects selected, reward_of_selects (selected.sequence closes unrewarded)]

/-- An item that speaks of a lamp, and an explicit lamp reward behind it. -/
def prayerSource : Text :=
  "add(new ItemReward(\"Old lamp\", 1), new LampReward(Skill.PRAYER, 500))".toList

/-- The explicit lamp reward, where it starts. -/
def prayerCall (start : Nat) : Call where
  start := start
  stop := start + 33
  argsStart := start + 15
  args := "Skill.PRAYER, 500".toList
  text := "new LampReward(Skill.PRAYER, 500)".toList

theorem reward_of_one_call_prayer :
    Selects prayerSource .explicit (prayerCall 35) ∧
      (reward prayerSource).value = some ⟨"PRAYER", 500, 1⟩ ∧
      (reward (prayerCall 0).text).value = (reward prayerSource).value ∧
      reward (prayerSource ++ ';' :: "new ItemReward(\"Lamp\", 2)".toList) = reward prayerSource := by
  obtain ⟨-, taken, -, alike, behind⟩ := reward_of_one_call prayerSource
  have selected := (taken .explicit (prayerCall 35)).mp (by decide +kernel)
  have alone : Selects (prayerCall 0).text .explicit (prayerCall 0) :=
    call?_eq_some_iff.mp (by decide +kernel)
  have closes : ∀ kind ∈ kinds, ClosesCalls kind.toList prayerSource := by
    intro kind known
    have solid : ∀ kind ∈ kinds, ∃ c, kind.toList.head? = some c ∧ isGap c = false := by
      simp [kinds, isGap]
    apply (closesCalls_iff (solid kind known)).mpr
    revert kind
    decide +kernel
  refine ⟨selected, ?_, ?_, ?_⟩
  · rw [reward_of_selects selected]
    decide +kernel
  · exact (alike _ _ _ _ _ selected alone rfl).symm
  · exact behind _ _ _ selected closes (by decide +kernel)

end QuestRecords.Lamp
