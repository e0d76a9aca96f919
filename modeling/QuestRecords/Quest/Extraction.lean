import QuestRecords.Quest.Grouping
import QuestRecords.Quest.ItemReference
import QuestRecords.Quest.ItemText
import QuestRecords.Quest.Lamp
import QuestRecords.Quest.Requirement
import QuestRecords.Quest.Step
import QuestRecords.Source.Member

/-! Everything that the source of a quest tells about it, before names of variables are replaced
by what they stand for. Each part is read from the body of its own member or from the whole
source; a member that is not declared reads as empty. -/
namespace QuestRecords

/-- The members whose bodies are read. -/
inductive QuestMember where
  | questPointReward
  | experienceRewards
  | generalRequirements
  | itemRequirements
  | panels
  | setupRequirements
  deriving DecidableEq

namespace QuestMember

/-- Every member, in the order in which missing ones are reported. -/
def all : List QuestMember :=
  [questPointReward, experienceRewards, generalRequirements, itemRequirements, panels,
    setupRequirements]

/-- The name under which a source declares the member. -/
def name : QuestMember → String
  | questPointReward => "getQuestPointReward"
  | experienceRewards => "getExperienceRewards"
  | generalRequirements => "getGeneralRequirements"
  | itemRequirements => "getItemRequirements"
  | panels => "getPanels"
  | setupRequirements => "setupRequirements"

/-- The body of the member in a source, if it is declared there. -/
def body? (source : Text) (member : QuestMember) : Option Text :=
  (Source.Member.locate? source member.name.toList).map (·.body)

/-- The body of the member, or the empty text. -/
def body (source : Text) (member : QuestMember) : Text := (member.body? source).getD []

end QuestMember

structure Extraction where
  questPoints : Int64 := 0
  experienceRewards : List ExperienceReward := []
  lampReward : Option LampReward := none
  skillRequirements : List SkillRequirement := []
  questRequirements : List String := []
  questPointRequirement : Option Int64 := none
  itemReferences : List String := []
  steps : StepTable := ∅
  groupings : List Grouping := []
  items : ItemTexts := {}
  missing : List QuestMember := []

namespace Extraction

def missingWarning (member : QuestMember) : Event :=
  .warning .memberNotFound "Member not found; using defaults" [("member", member.name)]

def doneMessage (extraction : Extraction) : Event :=
  .debug "Members extracted" [("steps", toString extraction.steps.size),
    ("panels", toString extraction.groupings.length),
    ("direct_requirements", toString extraction.items.direct.size),
    ("aliases", toString extraction.items.aliases.size)]

/-- What a source tells about its quest. -/
def ofSource (source : Text) : Logged Extraction := do
  let general := QuestMember.generalRequirements.body source
  let lampReward ← Lamp.reward source
  let steps ← Step.extract source
  let groupings ← Grouping.extract (QuestMember.panels.body source)
  let items ← ItemTexts.extract (QuestMember.setupRequirements.body source)
  let extraction : Extraction := {
    questPoints := Reward.questPoints (QuestMember.questPointReward.body source)
    experienceRewards := Reward.experience (QuestMember.experienceRewards.body source)
    lampReward
    skillRequirements := Requirement.skills general
    questRequirements := Requirement.quests general
    questPointRequirement := Requirement.questPoints? general
    itemReferences := ItemReference.extract (QuestMember.itemRequirements.body source)
    steps, groupings, items
    missing := QuestMember.all.filter fun member => (member.body? source).isNone }
  Logged.raiseAll (extraction.missing.map missingWarning)
  Logged.raise extraction.doneMessage
  return extraction

end Extraction
end QuestRecords
