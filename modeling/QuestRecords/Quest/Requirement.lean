import QuestRecords.Quest.QuestName
import QuestRecords.Quest.Reward

/-! What has to be met before a quest can be started: skill levels, other quests, and a number of
quest points. -/
namespace QuestRecords.Requirement

open Source Reward

/-- The skill requirements in the order of the source, repetitions included. -/
def skills (body : Text) : List SkillRequirement :=
  (constructorCalls body (typeName "SkillRequirement")).filterMap fun call =>
    (constantAndInteger? "Skill" call).map fun (skill, level) => { skill, level }

/-- The constant of a quest given as first argument, by its display name. -/
def requiredQuest? (call : Call) : Option String := do
  let constant ← constantOf? (typeName "QuestHelperQuest") (← call.firstArgument?)
  return String.ofList (QuestName.ofConstant constant)

/-- A list without the later repetitions of its members. -/
def firstOccurrences (names : List String) : List String :=
  names.foldl (fun kept name => if name ∈ kept then kept else kept ++ [name]) []

/-- The required quests by display name, each once, by first mention. -/
def quests (body : Text) : List String :=
  firstOccurrences
    ((constructorCalls body (typeName "QuestRequirement")).filterMap requiredQuest?)

/-- The first readable number of required quest points. -/
def questPoints? (body : Text) : Option Int64 :=
  (constructorCalls body (typeName "QuestPointRequirement")).findSome? soleInteger?

end QuestRecords.Requirement
