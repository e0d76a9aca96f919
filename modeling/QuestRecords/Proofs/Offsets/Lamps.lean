import QuestRecords.Proofs.Offsets.Guarded
import QuestRecords.Proofs.Offsets.Literals
import QuestRecords.Proofs.Offsets.Rewards
import QuestRecords.Proofs.Text.Gathered
import QuestRecords.Quest.Lamp

namespace QuestRecords.Offsets

open Text Source

def isNamedLamp (call : Call) : Checked Bool := do
  match (← splitTopLevelArgs call.args).head? with
  | none => return false
  | some first =>
    return ((← readStringArgument first).map fun title =>
      Lamp.contains "lamp".toList (lower title)).getD false

/-- The call with the smallest offset, the first of several. -/
def earliest? : List Call → Option Call
  | [] => none
  | call :: rest =>
    match earliest? rest with
    | none => some call
    | some other => if call.start ≤ other.start then some call else some other

def namedLamp (source : Text) : Checked (Option Call) := do
  let items ← constructorCalls source "ItemReward".toList
  let unlocks ← constructorCalls source "UnlockReward".toList
  let named ← gather (fun call => do return if ← isNamedLamp call then some call else none)
    (items ++ unlocks)
  return earliest? named

/-- The call that gives the lamp, and how it was recognised. -/
def lampCall (source : Text) : Checked (Option (Lamp.Match × Call)) := do
  match (← constructorCalls source "LampReward".toList).head? with
  | some call => return some (.explicit, call)
  | none => return (← namedLamp source).map (.byTitle, ·)

def firstStringArgument (args : List Text) : Checked (Option Text) :=
  firstSome readStringArgument args

/-- The first parenthesis in the title, unless it is blank. -/
def skillsOfTitle (args : List Text) : Checked (Option Text) := do
  return ((← firstStringArgument args).bind (findFirst? Lamp.parenthesis?)).bind fun inner =>
    if trim inner = [] then none else some (trim inner)

def quantityOfTitle (args : List Text) : Checked (Option Int64) := do
  return ((← firstStringArgument args).bind (findFirst? Lamp.count?)).bind Lamp.amountOfDigits?

/-- The last argument, if it is a whole number and an argument before it is one too. -/
def quantityOfLast? (args : List Text) : Option Int64 :=
  (args.getLast?.bind integer?).bind fun quantity =>
    if args.dropLast.any fun argument => (integer? argument).isSome then some quantity else none

def eitherRule (first : Option α) (second : Checked (Option α)) : Checked (Option α) :=
  match first with
  | some found => return some found
  | none => second

def lampOfCall (call : Call) : Checked LampReward := do
  let args ← splitTopLevelArgs call.args
  let skills ← eitherRule (Lamp.skillsOfConstants? call) (skillsOfTitle args)
  let value := (Lamp.valueOfText? call).or (args.findSome? integer?)
  let quantity ← quantityOfTitle args
  return { skills := (skills.map String.ofList).getD "Any"
           value := value.getD 0
           quantity := (quantity.or (quantityOfLast? args)).getD 1 }

def lampReward (source : Text) : Guarded (Option LampReward) := do
  match ← lampCall source with
  | none => return none
  | some found =>
    Logged.raise (.debug "Lamp reward matched"
      [("matcher", found.1.label), ("offset", toString found.2.start)])
    return some (← lampOfCall found.2)

theorem isNamedLamp_returns {call : Call} (fits : width call.args < 0x80000000) :
    isNamedLamp call = .ok (Lamp.isNamedLamp call) := by
  rw [isNamedLamp, arguments_returns fits, ok_bind, Lamp.isNamedLamp, Call.firstArgument?]
  cases call.arguments.head? with
  | none => rfl
  | some first =>
    simp only [readStringArgument_returns, ok_bind, Option.bind_some]
    cases Literal.ofArgument? first <;> rfl

theorem mem_of_earliest? {calls : List Call} {call : Call} (found : earliest? calls = some call) :
    call ∈ calls := by
  induction calls generalizing call with
  | nil => cases found
  | cons first rest ih =>
    rw [earliest?] at found
    cases later : earliest? rest with
    | none =>
      rw [later] at found
      cases found
      exact List.mem_cons_self
    | some other =>
      rw [later] at found
      by_cases before : first.start ≤ other.start
      · simp only [before, if_true] at found
        cases found
        exact List.mem_cons_self
      · simp only [before, if_false] at found
        cases found
        exact List.mem_cons_of_mem _ (ih later)

theorem earliest?_append {call : Call} (before : List Call) {after : List Call}
    (first : ∀ other ∈ before, call.start < other.start)
    (last : ∀ other ∈ after, call.start ≤ other.start) :
    earliest? (before ++ call :: after) = some call := by
  induction before with
  | nil =>
    rw [List.nil_append, earliest?]
    cases later : earliest? after with
    | none => rfl
    | some other => simp [last other (mem_of_earliest? later)]
  | cons other before ih =>
    have rest := ih fun other member => first other (List.mem_cons_of_mem _ member)
    have apart : ¬ other.start ≤ call.start := Nat.not_le.mpr (first other List.mem_cons_self)
    rw [List.cons_append, earliest?, rest]
    simp [apart]

section

variable (left right : Site → Option Call)
  (leftStart : ∀ site call, left site = some call → call.start = site.offset)
  (rightStart : ∀ site call, right site = some call → call.start = site.offset)

theorem lt_start_of_mem_filterMap {read : Site → Option Call}
    (starts : ∀ site call, read site = some call → call.start = site.offset) {behind ahead : Text}
    {c : Char} {call : Call} (member : call ∈ (sitesFrom (c :: behind) ahead).filterMap read) :
    width behind < call.start := by
  obtain ⟨site, place, found⟩ := List.mem_filterMap.mp member
  have := c.utf8Size_pos
  have := le_offset_of_mem_sitesFrom place
  rw [width_cons] at this
  rw [starts site call found]
  omega

include leftStart rightStart

/-- The earliest of the calls that two readers find is the first that is found by reading at every
place with the one or else the other. -/
theorem earliest?_findAll (behind text : Text) :
    earliest? ((sitesFrom behind text).filterMap left ++ (sitesFrom behind text).filterMap right) =
      (sitesFrom behind text).findSome? fun site => (left site).or (right site) := by
  induction text generalizing behind with
  | nil => rfl
  | cons c ahead ih =>
    rw [sitesFrom, List.findSome?_cons]
    cases atLeft : left ⟨behind, c :: ahead⟩ with
    | some call =>
      have start : call.start = width behind := leftStart _ call atLeft
      rw [List.filterMap_cons_some atLeft]
      apply earliest?_append []
      · intro other member
        cases member
      · intro other member
        rw [start]
        rcases List.mem_append.mp member with later | beside
        · exact Nat.le_of_lt (lt_start_of_mem_filterMap leftStart later)
        · obtain ⟨site, place, found⟩ := List.mem_filterMap.mp beside
          have place : site ∈ sitesFrom behind (c :: ahead) := place
          rw [rightStart site other found]
          exact le_offset_of_mem_sitesFrom place
    | none =>
      rw [List.filterMap_cons_none atLeft, Option.none_or]
      cases atRight : right ⟨behind, c :: ahead⟩ with
      | some call =>
        have start : call.start = width behind := rightStart _ call atRight
        rw [List.filterMap_cons_some atRight]
        apply earliest?_append
        · intro other member
          rw [start]
          exact lt_start_of_mem_filterMap leftStart member
        · intro other member
          rw [start]
          exact Nat.le_of_lt (lt_start_of_mem_filterMap rightStart member)
      | none =>
        rw [List.filterMap_cons_none atRight]
        exact ih (c :: behind)

end

theorem start_of_at? {typeName : Text} {site : Site} {call : Call}
    (read : Call.at? typeName site = some call) : call.start = site.offset := by
  obtain ⟨paren, -, called⟩ := Option.bind_eq_some_iff.mp read
  obtain ⟨parts, -, same⟩ := Option.map_eq_some_iff.mp called
  rw [← same]

/-- The types that can be read at one place begin alike. -/
theorem exists_of_at? {typeName : Text} {site : Site} {call : Call}
    (read : Call.at? typeName site = some call) :
    ∃ atType, (after? ['n', 'e', 'w'] site.ahead).bind skipGaps1? = some atType ∧
      ∃ afterType, atType = typeName ++ afterType := by
  obtain ⟨paren, header, -⟩ := Option.bind_eq_some_iff.mp read
  rw [header?_eq] at header
  obtain ⟨-, header⟩ := Option.ite_none_left_eq_some.mp header
  obtain ⟨atType, gaps, header⟩ := Option.bind_eq_some_iff.mp header
  obtain ⟨afterType, typed, -⟩ := Option.bind_eq_some_iff.mp header
  exact ⟨atType, gaps, afterType, after?_eq_some_iff.mp typed⟩

theorem not_unlock_of_item {site : Site} {item unlock : Call}
    (itemRead : Call.at? "ItemReward".toList site = some item) :
    Call.at? "UnlockReward".toList site ≠ some unlock := by
  intro unlockRead
  obtain ⟨atType, read, afterItem, itemType⟩ := exists_of_at? itemRead
  obtain ⟨other, sameRead, afterUnlock, unlockType⟩ := exists_of_at? unlockRead
  cases read.symm.trans sameRead
  have heads := congrArg List.head? (itemType.symm.trans unlockType)
  exact absurd heads (by simp)

/-- The call of a type at a place, if its title speaks of a lamp. -/
def lampAt? (typeName : Text) (site : Site) : Option Call :=
  (Call.at? typeName site).filter Lamp.isNamedLamp

theorem namedLampAt?_eq (site : Site) :
    Lamp.namedLampAt? site =
      (lampAt? "ItemReward".toList site).or (lampAt? "UnlockReward".toList site) := by
  rw [Lamp.namedLampAt?, lampAt?, lampAt?]
  cases item : Call.at? "ItemReward".toList site with
  | none => rfl
  | some call =>
    have unread : Call.at? "UnlockReward".toList site = none :=
      Option.eq_none_iff_forall_ne_some.mpr fun unlock => not_unlock_of_item item
    rw [unread, Option.filter_none, Option.or_none]
    rfl

section

variable {source : Text} (fits : width source < 0x80000000)

include fits

/-- The smallest offset is that of the first place that is read. -/
theorem namedLamp_returns : namedLamp source = .ok (findFirst? Lamp.namedLampAt? source) := by
  have each : ∀ typeName, ∀ call ∈ Source.constructorCalls source typeName,
      (do return if ← isNamedLamp call then some call else none) =
        .ok (Option.guard Lamp.isNamedLamp call) := by
    intro typeName call member
    rw [isNamedLamp_returns (args_fit member fits)]
    rfl
  have named : ∀ typeName, (Source.constructorCalls source typeName).filterMap
      (Option.guard Lamp.isNamedLamp) = (sites source).filterMap (lampAt? typeName) := by
    intro typeName
    rw [List.filterMap_eq_filter, Source.constructorCalls, findAll, List.filter_filterMap]
    rfl
  have starts : ∀ {typeName} site call, lampAt? typeName site = some call →
      call.start = site.offset := by
    intro typeName site call found
    exact start_of_at? (Option.filter_eq_some_iff.mp found).1
  have first := earliest?_findAll (lampAt? "ItemReward".toList) (lampAt? "UnlockReward".toList)
    starts starts [] source
  rw [namedLamp, constructorCalls_returns, constructorCalls_returns, ok_bind, ok_bind,
    gather_ok fun call member => (List.mem_append.mp member).elim (each _ call) (each _ call),
    ok_bind, List.filterMap_append, named, named, findFirst?, funext namedLampAt?_eq]
  exact congrArg Except.ok first

theorem lampCall_returns : lampCall source = .ok (Lamp.call? source) := by
  rw [lampCall, constructorCalls_returns, ok_bind, head?_constructorCalls, Lamp.call?]
  cases findFirst? (Call.at? "LampReward".toList) source with
  | some call => rfl
  | none => simp [namedLamp_returns fits]

end

theorem firstStringArgument_returns (args : List Text) :
    firstStringArgument args = .ok (args.findSome? Literal.ofArgument?) :=
  firstSome_ok fun argument _ => readStringArgument_returns argument

theorem eitherRule_ok {second : Checked (Option α)} {other : Option α} (first : Option α)
    (returns : second = .ok other) : eitherRule first second = .ok (first.or other) := by
  cases first with
  | none => exact returns
  | some found => rfl

theorem quantityOfLast?_eq (call : Call) :
    quantityOfLast? call.arguments = Lamp.quantityOfArgument? call := by
  rw [quantityOfLast?, Lamp.quantityOfArgument?]
  cases call.arguments.getLast? with
  | none => rfl
  | some last => cases integer? last <;> rfl

theorem lampOfCall_returns {call : Call} (fits : width call.args < 0x80000000) :
    lampOfCall call = .ok (Lamp.ofCall call) := by
  have skills : skillsOfTitle call.arguments = .ok (Lamp.skillsOfTitle? call) := by
    rw [skillsOfTitle, firstStringArgument_returns]
    rfl
  have quantity : quantityOfTitle call.arguments = .ok (Lamp.quantityOfTitle? call) := by
    rw [quantityOfTitle, firstStringArgument_returns]
    rfl
  rw [lampOfCall, arguments_returns fits, ok_bind, eitherRule_ok _ skills, ok_bind, quantity,
    ok_bind, quantityOfLast?_eq, Lamp.ofCall, Option.orElse_eq_or, Option.orElse_eq_or,
    Option.orElse_eq_or]
  cases (Lamp.skillsOfConstants? call).or (Lamp.skillsOfTitle? call) <;> rfl

theorem args_isInfix_of_at? {typeName : Text} {site : Site} {call : Call}
    (read : Call.at? typeName site = some call) : call.args <:+: site.text :=
  (isInfix_of_at? read).1.trans (isInfix_of_at? read).2

theorem args_isInfix_of_findFirst? {read : Site → Option Call}
    (inside : ∀ site call, read site = some call → call.args <:+: site.text) {source : Text}
    {call : Call} (first : findFirst? read source = some call) : call.args <:+: source := by
  obtain ⟨site, place, found⟩ := List.exists_of_findSome?_eq_some first
  rw [← text_of_mem_sites place]
  exact inside site call found

theorem args_isInfix_of_lampCall? {source : Text} {found : Lamp.Match × Call}
    (read : Lamp.call? source = some found) : found.2.args <:+: source := by
  rw [Lamp.call?] at read
  cases explicit : findFirst? (Call.at? "LampReward".toList) source with
  | some call =>
    rw [explicit] at read
    cases read
    exact args_isInfix_of_findFirst? (fun _ _ => args_isInfix_of_at?) explicit
  | none =>
    rw [explicit] at read
    obtain ⟨call, named, rfl⟩ := Option.map_eq_some_iff.mp read
    apply args_isInfix_of_findFirst? _ named
    intro site call found
    rw [namedLampAt?_eq] at found
    rcases Option.or_eq_some_iff.mp found with item | ⟨-, unlock⟩
    · exact args_isInfix_of_at? (Option.filter_eq_some_iff.mp item).1
    · exact args_isInfix_of_at? (Option.filter_eq_some_iff.mp unlock).1

/-- Reading the lamp by offsets never fails, tells the same and finds the same. -/
theorem lampReward_returns {source : Text} (fits : width source < 0x80000000) :
    lampReward source = liftM (Lamp.reward source) := by
  rw [lampReward, lampCall_returns fits, liftM_ok, pure_bind, Lamp.reward]
  cases read : Lamp.call? source with
  | none => rfl
  | some found =>
    have short := fits_of_isInfix (args_isInfix_of_lampCall? read) fits
    simp only [lampOfCall_returns short, liftM_ok]
    rfl

end QuestRecords.Offsets
