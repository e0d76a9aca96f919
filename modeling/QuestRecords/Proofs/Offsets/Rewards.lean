import QuestRecords.Proofs.Offsets.Lists
import QuestRecords.Proofs.Source.Suffixes
import QuestRecords.Quest.ItemReference
import QuestRecords.Quest.Requirement

namespace QuestRecords.Offsets

open Text Source

/-- The value of a call whose only argument is a whole number. -/
def soleInteger (call : Call) : Checked (Option Int64) := do
  match ← splitTopLevelArgs call.args with
  | [amount] => return integer? amount
  | _ => return none

/-- A constant of a family as first argument and a whole number as second. -/
def constantAndInteger (family : String) (call : Call) : Checked (Option (String × Int64)) := do
  match ← splitTopLevelArgs call.args with
  | constant :: amount :: _ =>
    return (constantOf? family.toList constant).bind fun name =>
      (integer? amount).map fun value => (String.ofList name, value)
  | _ => return none

/-- The constant of a quest given as first argument, by its display name. -/
def requiredQuest (call : Call) : Checked (Option String) := do
  return (← splitTopLevelArgs call.args).head?.bind fun constant =>
    (constantOf? (Reward.typeName "QuestHelperQuest") constant).map fun name =>
      String.ofList (QuestName.ofConstant name)

def questPoints (body : Text) : Checked Int64 := do
  let calls ← constructorCalls body (Reward.typeName "QuestPointReward")
  return (← firstSome soleInteger calls).getD 0

/-- The first readable number of required quest points. -/
def requiredPoints (body : Text) : Checked (Option Int64) := do
  firstSome soleInteger (← constructorCalls body (Reward.typeName "QuestPointRequirement"))

def experienceRewards (body : Text) : Checked (List ExperienceReward) := do
  let calls ← constructorCalls body (Reward.typeName "ExperienceReward")
  return (← gather (constantAndInteger "Skill") calls).map fun found =>
    { skill := found.1, xp := found.2 }

def skillRequirements (body : Text) : Checked (List SkillRequirement) := do
  let calls ← constructorCalls body (Reward.typeName "SkillRequirement")
  return (← gather (constantAndInteger "Skill") calls).map fun found =>
    { skill := found.1, level := found.2 }

/-- The required quests by display name, each once. -/
def questRequirements (body : Text) : Checked (List String) := do
  let calls ← constructorCalls body (Reward.typeName "QuestRequirement")
  return Requirement.firstOccurrences (← gather requiredQuest calls)

/-- The match of an `add` call: where it starts, and where it ends behind its parenthesis. -/
def addMatch? (site : Site) : Option (Nat × Nat) :=
  (methodCall? "add" site).map fun paren => (site.offset, site.offsetAt paren + 1)

def addCall (body : Text) (found : Nat × Nat) : Checked (Option (Nat × List Text)) := do
  match ← callAt body found.1 (← subtract found.2 1) with
  | none => return none
  | some call => return some (found.1, ← identifiersIn call.args)

/-- The variables named in list literals and `add` calls, by place. -/
def itemReferences (body : Text) : Checked (List String) := do
  let lists ← findListLiterals body
  let adds ← gather (addCall body) (findAll addMatch? body)
  let groups := (lists.map (fun list => (list.start, list.identifiers)) ++ adds).mergeSort
    fun left right => left.1 ≤ right.1
  return groups.flatMap fun group => group.2.map String.ofList

theorem fits_of_isInfix {part text : Text} (inside : part <:+: text)
    (fits : width text < 0x80000000) : width part < 0x80000000 :=
  Nat.lt_of_le_of_lt (width_le_of_isInfix inside) fits

theorem args_fit {text typeName : Text} {call : Call}
    (member : call ∈ Source.constructorCalls text typeName) (fits : width text < 0x80000000) :
    width call.args < 0x80000000 := by
  obtain ⟨args, whole⟩ := isInfix_of_mem_constructorCalls member
  exact fits_of_isInfix (args.trans whole) fits

section

variable {call : Call} (fits : width call.args < 0x80000000)

include fits

theorem arguments_returns : splitTopLevelArgs call.args = .ok call.arguments :=
  splitTopLevelArgs_returns fits

theorem soleInteger_returns : soleInteger call = .ok (Reward.soleInteger? call) := by
  rw [soleInteger, arguments_returns fits, ok_bind, Reward.soleInteger?]
  rcases call.arguments with _ | ⟨first, _ | ⟨second, rest⟩⟩
  · rfl
  · rfl
  · rfl

theorem constantAndInteger_returns (family : String) :
    constantAndInteger family call = .ok (Reward.constantAndInteger? family call) := by
  rw [constantAndInteger, arguments_returns fits, ok_bind, Reward.constantAndInteger?]
  rcases call.arguments with _ | ⟨constant, _ | ⟨amount, rest⟩⟩
  · rfl
  · rfl
  · cases named : constantOf? family.toList constant with
    | none => simp [named]
    | some name => cases value : integer? amount <;> simp [named, value]

theorem requiredQuest_returns :
    requiredQuest call = .ok (Requirement.requiredQuest? call) := by
  rw [requiredQuest, arguments_returns fits, ok_bind, Requirement.requiredQuest?,
    Call.firstArgument?]
  cases call.arguments.head? with
  | none => rfl
  | some constant =>
    cases named : constantOf? (Reward.typeName "QuestHelperQuest") constant <;> simp [named]

end

section

variable {body : Text} (fits : width body < 0x80000000)

include fits

theorem questPoints_returns : questPoints body = .ok (Reward.questPoints body) := by
  rw [questPoints, constructorCalls_returns, ok_bind,
    firstSome_ok fun call member => soleInteger_returns (args_fit member fits)]
  rfl

theorem requiredPoints_returns :
    requiredPoints body = .ok (Requirement.questPoints? body) := by
  rw [requiredPoints, constructorCalls_returns, ok_bind,
    firstSome_ok fun call member => soleInteger_returns (args_fit member fits)]
  rfl

theorem experienceRewards_returns :
    experienceRewards body = .ok (Reward.experience body) := by
  rw [experienceRewards, constructorCalls_returns, ok_bind,
    gather_ok fun call member => constantAndInteger_returns (args_fit member fits) "Skill",
    ok_bind, List.map_filterMap]
  rfl

theorem skillRequirements_returns :
    skillRequirements body = .ok (Requirement.skills body) := by
  rw [skillRequirements, constructorCalls_returns, ok_bind,
    gather_ok fun call member => constantAndInteger_returns (args_fit member fits) "Skill",
    ok_bind, List.map_filterMap]
  rfl

theorem questRequirements_returns :
    questRequirements body = .ok (Requirement.quests body) := by
  rw [questRequirements, constructorCalls_returns, ok_bind,
    gather_ok fun call member => requiredQuest_returns (args_fit member fits)]
  rfl

theorem addCall_site {site : Site} (place : site ∈ sites body) {found : Nat × Nat}
    (matched : addMatch? site = some found) :
    addCall body found = .ok (ItemReference.addAt? site) := by
  obtain ⟨paren, called, same⟩ := Option.map_eq_some_iff.mp matched
  cases same
  obtain ⟨header, split⟩ := methodCall?_suffix called
  have whole := text_of_mem_sites place
  rw [← whole] at fits ⊢
  rw [addCall, Site.offsetAt_of_append split.symm, subtract_succ, ok_bind,
    callAt_site site split.symm, ok_bind, ItemReference.addAt?, called, Option.bind_eq_bind,
    Option.bind_some]
  cases read : parenthesised? paren with
  | none => simp [Call.ofParen?, read]
  | some parts =>
    obtain ⟨args, rest⟩ := parts
    have short : width args < 0x80000000 := by
      have := width_args_le read
      rw [site_text site split.symm, width_append] at fits
      omega
    simp [Call.ofParen?, read, identifiersIn_returns short]

theorem itemReferences_returns :
    itemReferences body = .ok (ItemReference.extract body) := by
  have adds : gather (addCall body) (findAll addMatch? body) =
      .ok (findAll ItemReference.addAt? body) := by
    apply gather_filterMap
    · intro site place found matched
      exact addCall_site fits place matched
    · intro site place missing
      have uncalled := Option.map_eq_none_iff.mp missing
      simp [ItemReference.addAt?, uncalled]
  rw [itemReferences, findListLiterals_returns fits, ok_bind, adds]
  rfl

end

end QuestRecords.Offsets
