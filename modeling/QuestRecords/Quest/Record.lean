import QuestRecords.Total

/-! The record of a quest: what is known about its rewards, its requirements and the steps through
it. One record is written for each quest. -/
namespace QuestRecords

/-- A place in the world; any three numbers are a place. -/
structure WorldPoint where
  x : Int32
  y : Int32
  plane : Int32
  deriving DecidableEq

structure ExperienceReward where
  skill : String
  xp : Int64
  deriving DecidableEq

/-- A lamp: the skills it can be used on, what it is worth, and how many are given. -/
structure LampReward where
  skills : String := "Any"
  value : Int64 := 0
  quantity : Int64 := 1
  deriving DecidableEq

structure SkillRequirement where
  skill : String
  level : Int64
  deriving DecidableEq

/-- One step of a panel: what to do and where. -/
structure PanelStep where
  description : String
  point : WorldPoint
  deriving DecidableEq

/-- A titled group of steps, in the order in which they are done. -/
structure Panel where
  name : String
  steps : List PanelStep
  deriving DecidableEq

structure QuestRecord where
  name : String
  questPoints : Int64
  experienceRewards : List ExperienceReward
  lampReward : Option LampReward
  skillRequirements : List SkillRequirement
  questRequirements : List String
  questPointRequirement : Option Int64
  itemRequirements : List String
  panels : List Panel
  deriving DecidableEq

/-- The number of steps in all panels. -/
def QuestRecord.stepCount (record : QuestRecord) : Nat :=
  total (fun panel => panel.steps.length) record.panels

end QuestRecords
