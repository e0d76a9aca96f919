import QuestRecords.Quest.Extraction

/-! The record of a quest, made from what was extracted: the references of panels become the steps
they name, and those of items the texts they stand for. References that lead nowhere are left out
of the record and listed beside it. -/
namespace QuestRecords

structure Assembly where
  record : QuestRecord
  /-- References of panels to no known step, each with the title of its panel. -/
  danglingSteps : List (String × String)
  /-- References to items without a text. -/
  unresolvedItems : List String

namespace Assembly

/-- The step that a panel shows for a reference. -/
def panelStep? (steps : StepTable) (reference : String) : Option PanelStep :=
  (steps.get? reference).map fun step => ⟨step.description, step.point⟩

/-- The panel of a grouping: the known steps among its references. -/
def panel (steps : StepTable) (grouping : Grouping) : Panel :=
  ⟨grouping.title, grouping.references.filterMap (panelStep? steps)⟩

/-- The references of a grouping to no known step. -/
def dangling (steps : StepTable) (grouping : Grouping) : List (String × String) :=
  (grouping.references.filter fun reference => !steps.isBound reference).map (grouping.title, ·)

def danglingWarning (entry : String × String) : Event :=
  .warning .danglingStepReference "Dropping panel reference with no step"
    [("panel", entry.1), ("reference", entry.2)]

/-- The texts that the references lead to, each once, by first reference. -/
def itemTexts (items : ItemTexts) (references : List String) : List String :=
  Requirement.firstOccurrences
    (references.filterMap fun reference => (items.resolve reference).display?)

/-- The references that lead to no text. -/
def unresolved (items : ItemTexts) (references : List String) : List String :=
  references.filter fun reference => (items.resolve reference).display?.isNone

/-- Tells why a reference leads to no text. -/
def unresolvedWarning? (items : ItemTexts) (reference : String) : Option Event :=
  match items.resolve reference with
  | .resolved _ _ => none
  | .missing last => some (.warning .unresolvedReference "Item requirement has no display text"
      [("variable", reference), ("unbound", last)])
  | .cycle repeated => some (.warning .aliasCycle "Item requirement aliases form a cycle"
      [("variable", reference), ("repeated", repeated)])

/-- The record of the quest of a name. -/
def ofExtraction (name : String) (extraction : Extraction) : Logged Assembly := do
  let danglingSteps := extraction.groupings.flatMap (dangling extraction.steps)
  let references := extraction.itemReferences
  Logged.raiseAll (danglingSteps.map danglingWarning)
  Logged.raiseAll (references.filterMap (unresolvedWarning? extraction.items))
  return {
    record := {
      name
      questPoints := extraction.questPoints
      experienceRewards := extraction.experienceRewards
      lampReward := extraction.lampReward
      skillRequirements := extraction.skillRequirements
      questRequirements := extraction.questRequirements
      questPointRequirement := extraction.questPointRequirement
      itemRequirements := itemTexts extraction.items references
      panels := extraction.groupings.map (panel extraction.steps) }
    danglingSteps
    unresolvedItems := unresolved extraction.items references }

end Assembly
end QuestRecords
