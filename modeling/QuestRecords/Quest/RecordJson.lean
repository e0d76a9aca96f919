import QuestRecords.Json.Fields
import QuestRecords.Json.Parser
import QuestRecords.Json.Printer
import QuestRecords.Quest.Record

/-! Records as JSON documents. `toJson` fixes the names of the fields and their order, and `ofJson?`
reads what it writes. -/
namespace QuestRecords

open Json

namespace WorldPoint

def toJson (point : WorldPoint) : Json :=
  .object [("x", .ofInt point.x.toInt), ("y", .ofInt point.y.toInt),
    ("plane", .ofInt point.plane.toInt)]

def ofJson? (json : Json) : Option WorldPoint :=
  match fields? ["x", "y", "plane"] json with
  | some [some x, some y, some plane] => return ⟨← int? x, ← int? y, ← int? plane⟩
  | _ => none

end WorldPoint

namespace ExperienceReward

def toJson (reward : ExperienceReward) : Json :=
  .object [("skill", .string reward.skill), ("xp", ofLong reward.xp)]

def ofJson? (json : Json) : Option ExperienceReward :=
  match fields? ["skill", "xp"] json with
  | some [some skill, some xp] => return ⟨← string? skill, ← long? xp⟩
  | _ => none

end ExperienceReward

namespace LampReward

def toJson (lamp : LampReward) : Json :=
  .object [("skills", .string lamp.skills), ("value", ofLong lamp.value),
    ("quantity", ofLong lamp.quantity)]

def ofJson? (json : Json) : Option LampReward :=
  match fields? ["skills", "value", "quantity"] json with
  | some [some skills, some value, some quantity] =>
    return ⟨← string? skills, ← long? value, ← long? quantity⟩
  | _ => none

end LampReward

namespace SkillRequirement

def toJson (requirement : SkillRequirement) : Json :=
  .object [("skillName", .string requirement.skill), ("level", ofLong requirement.level)]

def ofJson? (json : Json) : Option SkillRequirement :=
  match fields? ["skillName", "level"] json with
  | some [some skill, some level] => return ⟨← string? skill, ← long? level⟩
  | _ => none

end SkillRequirement

namespace PanelStep

def toJson (step : PanelStep) : Json :=
  .object [("stepDescription", .string step.description), ("worldpoint", step.point.toJson)]

def ofJson? (json : Json) : Option PanelStep :=
  match fields? ["stepDescription", "worldpoint"] json with
  | some [some description, some point] =>
    return ⟨← string? description, ← WorldPoint.ofJson? point⟩
  | _ => none

end PanelStep

namespace Panel

def toJson (panel : Panel) : Json :=
  .object [("panelName", .string panel.name), ("steps", .array (panel.steps.map PanelStep.toJson))]

def ofJson? (json : Json) : Option Panel :=
  match fields? ["panelName", "steps"] json with
  | some [some name, some steps] => return ⟨← string? name, ← list? PanelStep.ofJson? steps⟩
  | _ => none

end Panel

namespace QuestRecord

def ofOptional (write : α → Json) : Option α → Json
  | some value => write value
  | none => .null

/-- The names of the fields, in the order in which they are written. -/
def fieldNames : List String :=
  ["name", "questPoints", "experienceRewards", "lampRewards", "skillRequirements",
    "questRequirements", "questPointRequirement", "itemRequirements", "steps"]

def fieldValues (record : QuestRecord) : List Json :=
  [.string record.name, ofLong record.questPoints,
    .array (record.experienceRewards.map ExperienceReward.toJson),
    ofOptional LampReward.toJson record.lampReward,
    .array (record.skillRequirements.map SkillRequirement.toJson),
    .array (record.questRequirements.map .string),
    ofOptional ofLong record.questPointRequirement,
    .array (record.itemRequirements.map .string),
    .array (record.panels.map Panel.toJson)]

def toJson (record : QuestRecord) : Json := .object (fieldNames.zip record.fieldValues)

/-- Reads a record. Only the lamp and the required quest points may be left out. -/
def ofJson? (json : Json) : Option QuestRecord :=
  match fields? fieldNames json with
  | some [some name, some questPoints, some experience, lamp, some skills, some quests,
      questPointRequirement, some items, some panels] => return {
        name := ← string? name
        questPoints := ← long? questPoints
        experienceRewards := ← list? ExperienceReward.ofJson? experience
        lampReward := ← nullable? LampReward.ofJson? lamp
        skillRequirements := ← list? SkillRequirement.ofJson? skills
        questRequirements := ← list? string? quests
        questPointRequirement := ← nullable? long? questPointRequirement
        itemRequirements := ← list? string? items
        panels := ← list? Panel.ofJson? panels }
  | _ => none

/-- The text of the file that holds a record. -/
def fileText (record : QuestRecord) : Text := record.toJson.pretty

/-- Reads the text of a file that holds a record. -/
def parse? (text : Text) : Option QuestRecord := (Json.read? text).bind ofJson?

end QuestRecord
end QuestRecords
