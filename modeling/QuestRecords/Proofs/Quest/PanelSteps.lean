import Mathlib.Data.List.Find
import Mathlib.Data.List.Nodup
import QuestRecords.Pipeline.Attempt
import QuestRecords.Proofs.Quest.PanelStatements
import QuestRecords.Proofs.Source.ClassSource

/-! The steps of the panels of a quest, from the statements that assign steps and add panels to the
record. A panel shows the steps that its references name, wherever among the others and of whatever
kind they were assigned; the references that name none are counted. -/
namespace QuestRecords

open Source Text

def panelSource (className : Identifier) (stepsBody panelsBody : Text) : Text :=
  classSource className "setupSteps".toList stepsBody "PanelDetails".toList "getPanels".toList
    panelsBody

theorem not_mem_beforeSetup (className : Identifier) :
    '=' ∉ beforeSetup className "setupSteps".toList := by
  have named := className.not_mem (c := '=') (by decide)
  unfold beforeSetup classHead
  simp [named]

namespace StepStatement

variable {steps : List StepStatement} {panels : List PanelStatement} {stepsBody panelsBody : Text}

/-- The steps of a kind that are found in a source are those that its statements assign. -/
theorem findAll_assignedAt? (laid : Laid text steps stepsBody)
    (laid' : Laid PanelStatement.text panels panelsBody) (className : Identifier) {kind : String}
    (known : kind ∈ Step.kinds) :
    findAll (Step.assignedAt? kind) (panelSource className stepsBody panelsBody) =
      (steps.filter (·.kind = kind)).map step := by
  have assigns : ∀ site step, Step.assignedAt? kind site = some step →
      (assigned? site).isSome = true := fun _ _ => Step.isSome_assigned?_of_assignedAt?
  have heads : ∀ c, isGap c = true → ∀ behind ahead,
      Step.assignedAt? kind ⟨behind, c :: ahead⟩ = none := fun c gap behind ahead =>
    eq_none_of_assigned? assigns (assigned?_of_head (isIdentifierStart_of_isGap gap) behind ahead)
  have opened : ∀ {front : Text}, '=' ∉ front → ∀ behind tail,
      foundIn (Step.assignedAt? kind) behind (front ++ ['\x7b']) tail = [] := by
    intro front noEquals behind tail
    refine foundIn_append_eq_nil ?_ (foundIn_of_noName assigns (by decide) _ _)
    exact foundIn_of_noEquals assigns (by decide +kernel) noEquals
  have brace : ∀ front behind : Text, AtStatement ((front ++ ['\x7b']).reverse ++ behind) := by
    intro front behind
    rw [List.reverse_append]
    exact .brace
  have assigned : ∀ behind tail, AtStatement behind →
      foundIn (Step.assignedAt? kind) behind stepsBody tail = steps.filterMap fun statement =>
        if statement.kind = kind then some statement.step else none :=
    fun behind tail start => foundIn_laid statements heads _
      (fun statement behind tail start => statement.foundIn_assignedAt? known behind tail start)
      laid start tail
  have added : ∀ behind tail, AtStatement behind →
      foundIn (Step.assignedAt? kind) behind panelsBody tail = panels.filterMap fun _ => none :=
    fun behind tail start => foundIn_laid PanelStatement.statements heads (fun _ => none)
      (fun statement behind tail _ => statement.foundIn_assignedAt? known behind tail) laid' start tail
  rw [findAll_eq_foundIn, panelSource, classSource_eq, foundIn_append,
    opened (not_mem_beforeSetup className), List.nil_append, foundIn_append,
    assigned _ _ (brace _ _), foundIn_append, opened (by decide +kernel), List.nil_append,
    foundIn_append, added _ _ (brace _ _), foundIn_of_noName assigns (by decide),
    ← List.filterMap_eq_map, List.filterMap_filter]
  simp

theorem lookup_step (statements : List StepStatement) (reference : Identifier) :
    ((statements.map step).map fun step => (step.name, step)).lookup reference.name =
      (statements.find? (·.name = reference)).map step := by
  induction statements with
  | nil => rfl
  | cons statement statements ih =>
    rw [List.map_cons, List.map_cons, List.lookup_cons, ih, List.find?_cons]
    by_cases same : statement.name = reference
    · simp [same, step]
    · have apart : (reference.name == statement.name.name) = false :=
        beq_false_of_ne fun named => same (Identifier.name_injective named).symm
      simp [same, apart, step]

/-- Statements sorted by kind are the same statements. -/
theorem flatMap_kinds_perm (statements : List StepStatement) :
    (Step.kinds.flatMap fun kind => statements.filter (·.kind = kind)).Perm statements := by
  have others : statements.filter (·.kind = "ObjectStep") =
      statements.filter fun statement => !decide (statement.kind = "NpcStep") := by
    apply List.filter_congr
    intro statement _
    have known := statement.known
    simp only [Step.kinds, List.mem_cons, List.not_mem_nil, or_false] at known
    rcases known with same | same <;> rw [same] <;> decide
  have sorted : (Step.kinds.flatMap fun kind => statements.filter (·.kind = kind)) =
      statements.filter (·.kind = "NpcStep") ++ statements.filter (·.kind = "ObjectStep") := by
    simp [Step.kinds]
  rw [sorted, others]
  exact List.filter_append_perm (·.kind = "NpcStep") statements

/-- The table of the steps of a source has the step that a statement assigns to a name. -/
theorem get?_extract (laid : Laid text steps stepsBody)
    (laid' : Laid PanelStatement.text panels panelsBody) (distinct : (steps.map (·.name)).Nodup)
    (className reference : Identifier) :
    (Step.extract (panelSource className stepsBody panelsBody)).value.get? reference.name =
      (steps.find? (·.name = reference)).map step := by
  have found : (Step.kinds.flatMap fun kind =>
      findAll (Step.assignedAt? kind) (panelSource className stepsBody panelsBody)) =
        (Step.kinds.flatMap fun kind => steps.filter (·.kind = kind)).map step := by
    rw [List.map_flatMap]
    apply List.flatMap_congr
    intro kind known
    exact findAll_assignedAt? laid laid' className known
  have sole : { statement ∈ steps | decide (statement.name = reference) = true }.Subsingleton := by
    intro left inLeft right inRight
    apply List.inj_on_of_nodup_map distinct inLeft.1 inRight.1
    exact (of_decide_eq_true inLeft.2).trans (of_decide_eq_true inRight.2).symm
  rw [Step.extract_value, found, lookup_step,
    ← List.find?_eq_find?_of_perm (flatMap_kinds_perm steps).symm sole]

end StepStatement
/-- The step that a panel shows for a reference: what the statement with this variable assigns. -/
def shownStep? (steps : List StepStatement) (reference : Identifier) : Option PanelStep :=
  (steps.find? (·.name = reference)).map fun statement =>
    ⟨String.ofList statement.description.text, statement.point⟩

section

variable {steps : List StepStatement} {table : StepTable}
  (named : ∀ reference : Identifier,
    table.get? reference.name = (steps.find? (·.name = reference)).map StepStatement.step)
include named

theorem panelStep?_eq (reference : Identifier) :
    Assembly.panelStep? table reference.name = shownStep? steps reference := by
  rw [Assembly.panelStep?, named, Option.map_map, shownStep?]
  rfl

/-- The panel of a statement shows the steps that its references name. -/
theorem panel_grouping (statement : PanelStatement) :
    Assembly.panel table statement.grouping =
      ⟨String.ofList statement.title.text, statement.references.filterMap (shownStep? steps)⟩ := by
  rw [Assembly.panel, PanelStatement.grouping, List.filterMap_map]
  congr 1
  exact List.filterMap_congr fun reference _ => panelStep?_eq named reference

/-- The dangling references of a statement are those that name no step. -/
theorem dangling_grouping (statement : PanelStatement) :
    Assembly.dangling table statement.grouping =
      (statement.references.filter fun reference => (shownStep? steps reference).isNone).map
        fun reference => (String.ofList statement.title.text, reference.name) := by
  have unbound : ∀ reference : Identifier,
      (!table.isBound reference.name) = (shownStep? steps reference).isNone := by
    intro reference
    rw [← panelStep?_eq named, Bindings.isBound, Assembly.panelStep?]
    cases table.get? reference.name <;> rfl
  rw [Assembly.dangling, PanelStatement.grouping, List.filter_map, List.map_map]
  congr 1
  exact List.filter_congr fun reference _ => unbound reference

end

section

variable (displayName : String) (source : Text)

theorem panels_ofSource : (ExtractedQuest.ofSource displayName source).value.record.panels =
    (Grouping.extract (QuestMember.panels.body source)).value.map
      (Assembly.panel (Step.extract source).value) := rfl

theorem danglingSteps_ofExtraction :
    (Assembly.ofExtraction displayName (Extraction.ofSource source).value).value.danglingSteps =
      (Grouping.extract (QuestMember.panels.body source)).value.flatMap
        (Assembly.dangling (Step.extract source).value) := rfl

theorem danglingSteps_ofSource :
    (ExtractedQuest.ofSource displayName source).value.danglingSteps =
      (Assembly.ofExtraction displayName (Extraction.ofSource source).value).value.danglingSteps.length
    := rfl

end

/-- Panels and their steps survive from the statements that write them to the record. -/
theorem panels_shown {steps : List StepStatement} {panels : List PanelStatement}
    {stepsBody panelsBody : Text} (laid : Laid StepStatement.text steps stepsBody)
    (laid' : Laid PanelStatement.text panels panelsBody) (distinct : (steps.map (·.name)).Nodup)
    (className : Identifier) (displayName : String) :
    let source := panelSource className stepsBody panelsBody
    let quest := (ExtractedQuest.ofSource displayName source).value
    let assembly := (Assembly.ofExtraction displayName (Extraction.ofSource source).value).value
    quest.record.panels = panels.map (fun panel =>
        ⟨String.ofList panel.title.text, panel.references.filterMap (shownStep? steps)⟩) ∧
      quest.danglingSteps = (panels.flatMap (·.references)).countP
        (fun reference => (shownStep? steps reference).isNone) ∧
      assembly.danglingSteps = panels.flatMap fun panel =>
        (panel.references.filter fun reference => (shownStep? steps reference).isNone).map
          fun reference => (String.ofList panel.title.text, reference.name) := by
  intro source quest assembly
  have located : QuestMember.panels.body source = panelsBody := by
    obtain ⟨opening, closing⟩ := laid'.braceless PanelStatement.statements
    have found : QuestMember.panels.body? source = some panelsBody :=
      locate?_list StepStatement.statements laid (by decide +kernel) (by decide +kernel) opening
        closing
    rw [QuestMember.body, found, Option.getD_some]
  have groupings : (Grouping.extract (QuestMember.panels.body source)).value =
      panels.map PanelStatement.grouping := by
    rw [located, PanelStatement.extract_laid laid']
  have named := StepStatement.get?_extract laid laid' distinct className
  have dangling : assembly.danglingSteps = panels.flatMap fun panel =>
      (panel.references.filter fun reference => (shownStep? steps reference).isNone).map
        fun reference => (String.ofList panel.title.text, reference.name) := by
    rw [danglingSteps_ofExtraction, groupings, List.flatMap_map]
    exact List.flatMap_congr fun panel _ => dangling_grouping named panel
  refine ⟨?_, ?_, dangling⟩
  · rw [panels_ofSource, groupings, List.map_map]
    exact List.map_congr_left fun panel _ => panel_grouping named panel
  · rw [danglingSteps_ofSource, dangling, List.length_flatMap, List.countP_flatMap]
    simp [List.countP_eq_length_filter, Function.comp_def]

/-- Steps of both kinds whose descriptions show what scanners look for. -/
def farmSteps : List StepStatement :=
  [⟨⟨"talk".toList, rfl⟩, "NpcStep", by decide, ⟨3200, 3210, 0⟩,
      ⟨"Talk (twice) to \"Fred\"; then go.".toList, by decide +kernel, by decide +kernel,
        by decide +kernel⟩⟩,
    ⟨⟨"dig".toList, rfl⟩, "ObjectStep", by decide, ⟨-1, 2, 3⟩,
      ⟨"getPanels() = new Step(1, \\".toList, by decide +kernel, by decide +kernel,
        by decide +kernel⟩⟩]

/-- A panel with a reference to no step, and one without references. -/
def farmPanels : List PanelStatement :=
  [⟨⟨"Start, slowly".toList, by decide +kernel, by decide +kernel, by decide +kernel⟩,
      [⟨"dig".toList, rfl⟩, ⟨"lost".toList, rfl⟩, ⟨"talk".toList, rfl⟩]⟩,
    ⟨⟨[], by decide, by decide, by decide +kernel⟩, []⟩]

theorem panels_shown_farm :
    let stepsBody :=
      "\ntalk = new NpcStep(this, 1, new WorldPoint(3200, 3210, 0), \"Talk (twice) ".toList ++
        "to \\\"Fred\\\"; then go.\");".toList ++
        "\ndig = new ObjectStep(this, 1, new WorldPoint(-1, 2, 3), \"getPanels() = ".toList ++
        "new Step(1, \\\\\");".toList
    let panelsBody :=
      "\nallSteps.add(new PanelDetails(\"Start, slowly\", Arrays.asList(dig, lost, talk)));".toList ++
        "\nallSteps.add(new PanelDetails(\"\", Arrays.asList()));".toList
    Laid StepStatement.text farmSteps stepsBody ∧ Laid PanelStatement.text farmPanels panelsBody ∧
      (farmSteps.map (·.name)).Nodup ∧ ∀ className displayName,
        let source := panelSource className stepsBody panelsBody
        let quest := (ExtractedQuest.ofSource displayName source).value
        quest.record.panels =
            [⟨"Start, slowly", [⟨"getPanels() = new Step(1, \\", ⟨-1, 2, 3⟩⟩,
              ⟨"Talk (twice) to \"Fred\"; then go.", ⟨3200, 3210, 0⟩⟩]⟩, ⟨"", []⟩] ∧
          quest.danglingSteps = 1 := by
  intro stepsBody panelsBody
  have laid : Laid StepStatement.text farmSteps stepsBody := by
    have whole : stepsBody = farmSteps.flatMap fun statement => '\n' :: statement.text := by
      decide +kernel
    rw [whole]
    exact .lines farmSteps
  have laid' : Laid PanelStatement.text farmPanels panelsBody := by
    have whole : panelsBody = farmPanels.flatMap fun statement => '\n' :: statement.text := by
      decide +kernel
    rw [whole]
    exact .lines farmPanels
  have distinct : (farmSteps.map (·.name)).Nodup := by decide +kernel
  refine ⟨laid, laid', distinct, fun className displayName => ?_⟩
  obtain ⟨panels, dangling, -⟩ := panels_shown laid laid' distinct className displayName
  have shown : (farmPanels.map fun panel => Panel.mk (String.ofList panel.title.text)
      (panel.references.filterMap (shownStep? farmSteps))) =
        [⟨"Start, slowly", [⟨"getPanels() = new Step(1, \\", ⟨-1, 2, 3⟩⟩,
          ⟨"Talk (twice) to \"Fred\"; then go.", ⟨3200, 3210, 0⟩⟩]⟩, ⟨"", []⟩] := by
    decide +kernel
  have left : (farmPanels.flatMap (·.references)).countP
      (fun reference => (shownStep? farmSteps reference).isNone) = 1 := by
    decide +kernel
  exact ⟨panels.trans shown, dangling.trans left⟩

end QuestRecords
