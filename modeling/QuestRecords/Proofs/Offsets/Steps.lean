import QuestRecords.Proofs.Offsets.Lamps
import QuestRecords.Quest.Step

namespace QuestRecords.Offsets

open Text Source

/-- A match of a pattern: the variable it names, and where it starts and ends. -/
structure Variable where
  name : Text
  start : Nat
  stop : Nat

/-- The match of a step of one kind; it ends behind the opening parenthesis. -/
def stepMatch? (kind : String) (site : Site) : Option Variable :=
  (assignment? kind site).map fun found =>
    { name := found.1, start := site.offset, stop := site.offsetAt found.2 + 1 }

/-- The literal behind an offset in a call, after anything that is no quote. -/
def descriptionBehind (call : Text) (stop : Nat) : Checked (Option Text) := do
  match find? (· == '"') (← sliceFrom call stop) with
  | none => return none
  | some distance => return (← readString call (distance + stop)).map (·.value)

/-- The place of a step and its description. -/
def stepContent (call : Text) : Checked (Option (WorldPoint × Text)) := do
  match (← constructorCalls call "WorldPoint".toList).head? with
  | none => return none
  | some place =>
    match Step.point? (← splitTopLevelArgs place.args) with
    | none => return none
    | some point => return (← descriptionBehind call place.stop).map (point, ·)

def addStep (source : Text) (kind : String) (steps : StepTable) (found : Variable) :
    Guarded StepTable := do
  match ← callAt source found.start (← subtract found.stop 1) with
  | none => return steps
  | some call =>
    match ← stepContent call.text with
    | some content =>
      return steps.insertFirst { name := String.ofList found.name
                                 description := String.ofList content.2
                                 point := content.1 }
    | none =>
      Logged.raise (.debug "Skipping step without readable location or description"
        [("step", String.ofList found.name), ("kind", kind)])
      return steps

def steps (source : Text) : Guarded StepTable :=
  Step.kinds.foldlM (fun steps kind =>
    (findAll (stepMatch? kind) source).foldlM (addStep source kind) steps) ∅

theorem exists_append_of_at? {typeName : Text} {site : Site} {call : Call}
    (read : Call.at? typeName site = some call) :
    ∃ before rest, site.text = before ++ rest ∧ call.stop = width before := by
  obtain ⟨paren, header, called⟩ := Option.bind_eq_some_iff.mp read
  obtain ⟨header, split⟩ := exists_append_of_header? header
  obtain ⟨⟨args, rest⟩, closed, same⟩ := Option.map_eq_some_iff.mp called
  cases same
  refine ⟨site.behind.reverse ++ header ++ '(' :: (args ++ [')']), rest, ?_, ?_⟩
  · simp [Site.text, split, parenthesised?_eq_append closed]
  · simp [split, upTo_append, Site.offset]
    omega

theorem descriptionBehind_append (before rest : Text) :
    descriptionBehind (before ++ rest) (width before) =
      .ok ((Literal.chain? (rest.dropWhile (· != '"'))).map (·.1)) := by
  have located : find? (· == '"') rest =
      if rest.dropWhile (· != '"') = [] then none
      else some (width (rest.takeWhile (· != '"'))) := find?_eq _ rest
  rw [descriptionBehind, sliceFrom_append, ok_bind, located]
  by_cases unquoted : rest.dropWhile (· != '"') = []
  · simp [unquoted, Literal.chain?]
  · have quote : width (rest.takeWhile (· != '"')) + width before =
        width (before ++ rest.takeWhile (· != '"')) := by
      rw [width_append, Nat.add_comm]
    have split : before ++ rest =
        before ++ rest.takeWhile (· != '"') ++ rest.dropWhile (· != '"') := by
      rw [List.append_assoc, List.takeWhile_append_dropWhile]
    rw [if_neg unquoted]
    simp only [quote, readString_returns, ok_bind]
    rw [split, Literal.read?, splitAt?_width]
    cases read : Literal.chain? (rest.dropWhile (· != '"')) with
    | none => simp [read]
    | some parts => simp [read]

theorem stepContent_returns {call : Text} (fits : width call < 0x80000000) :
    stepContent call = .ok (Step.content? call) := by
  rw [stepContent, constructorCalls_returns, ok_bind, head?_constructorCalls, Step.content?]
  cases found : findFirst? (Call.at? "WorldPoint".toList) call with
  | none => rfl
  | some place =>
    obtain ⟨site, member, read⟩ := List.exists_of_findSome?_eq_some found
    have whole := text_of_mem_sites member
    obtain ⟨before, rest, split, stop⟩ := exists_append_of_at? read
    have short := fits_of_isInfix (whole ▸ args_isInfix_of_at? read) fits
    rw [whole] at split
    subst split
    simp only [arguments_returns short, ok_bind, Option.bind_eq_bind, Option.bind_some, stop]
    cases Step.point? place.arguments with
    | none => rfl
    | some point =>
      simp only [descriptionBehind_append, ok_bind, splitAt?_width, Option.bind_some]
      cases Literal.chain? (rest.dropWhile (· != '"')) <;> rfl

/-- At a match the step is added that is assigned there. -/
theorem addStep_site {source : Text} (fits : width source < 0x80000000) {kind : String}
    {site : Site} (place : site ∈ sites source) {found : Variable}
    (matched : stepMatch? kind site = some found) (steps : StepTable) :
    addStep source kind steps found =
      liftM ((Step.at? kind site).elim (pure steps) (Step.add kind steps)) := by
  obtain ⟨⟨name, paren⟩, assigned, same⟩ := Option.map_eq_some_iff.mp matched
  cases same
  obtain ⟨header, split⟩ := assignment?_suffix assigned
  have whole := text_of_mem_sites place
  have called := callAt_site site split.symm
  rw [whole] at called
  have step : Step.at? kind site =
      (Call.ofParen? site paren).map fun call => (String.ofList name, call) := by
    rw [Step.at?, assigned]
    cases called : Call.ofParen? site paren with
    | none => simp [called]
    | some call => simp [called]
  rw [addStep, Site.offsetAt_of_append split.symm, subtract_succ, liftM_ok, pure_bind, called,
    liftM_ok, pure_bind, step]
  cases read : Call.ofParen? site paren with
  | none => rfl
  | some call =>
    have inside : call.text <:+: source := by
      rw [← whole]
      exact (isInfix_of_ofParen? split.symm read).2.trans (ahead_isInfix site)
    simp only [stepContent_returns (fits_of_isInfix inside fits), liftM_ok, pure_bind,
      Option.map_some, Option.elim_some, Step.add]
    cases Step.content? call.text <;> rfl

/-- Reading steps by offsets never fails, tells the same and finds the same. -/
theorem steps_returns {source : Text} (fits : width source < 0x80000000) :
    steps source = liftM (Step.extract source) := by
  apply foldlM_lift
  intro kind _ table
  apply foldlM_filterMap_lift
  · intro site place found matched state
    exact addStep_site fits place matched state
  · intro site _ missing
    rw [Step.at?, Option.map_eq_none_iff.mp missing]
    rfl

end QuestRecords.Offsets
