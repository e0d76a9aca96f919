import QuestRecords.Quest.Assembly

/-! The account of panel references. A panel shows the step of each reference that has one; each
other reference is left over, with the title of its panel. No reference is lost, counted twice or
moved on the way. -/
namespace QuestRecords.Assembly

/-- The references under a title, one by one: the steps that are shown and what is left over. -/
inductive Accounts (steps : StepTable) (title : String) :
    List String → List PanelStep → List (String × String) → Prop where
  | nil : Accounts steps title [] [] []
  | shown (known : steps.get? reference = some step)
      (rest : Accounts steps title references shown left) :
      Accounts steps title (reference :: references) (⟨step.description, step.point⟩ :: shown) left
  | left (unknown : steps.get? reference = none)
      (rest : Accounts steps title references shown left) :
      Accounts steps title (reference :: references) shown ((title, reference) :: left)

/-- All groupings, one by one: a panel for each, and what is left over of them in turn. -/
inductive AccountsAll (steps : StepTable) :
    List Grouping → List Panel → List (String × String) → Prop where
  | nil : AccountsAll steps [] [] []
  | cons (here : Accounts steps title references shown left)
      (rest : AccountsAll steps groupings panels behind) :
      AccountsAll steps (⟨title, references⟩ :: groupings) (⟨title, shown⟩ :: panels)
        (left ++ behind)

section

variable {steps : StepTable} {title : String} {references : List String} {shown : List PanelStep}
  {left : List (String × String)}

theorem Accounts.unique (account : Accounts steps title references shown left)
    (other : Accounts steps title references shown' left') : shown' = shown ∧ left' = left := by
  induction account generalizing shown' left' with
  | nil =>
    cases other
    exact ⟨rfl, rfl⟩
  | shown known _ ih =>
    cases other with
    | shown known' rest =>
      obtain ⟨rfl, rfl⟩ := ih rest
      obtain rfl := Option.some.inj (known.symm.trans known')
      exact ⟨rfl, rfl⟩
    | left unknown _ => exact absurd (known.symm.trans unknown) (Option.some_ne_none _)
  | left unknown _ ih =>
    cases other with
    | shown known _ => exact absurd (known.symm.trans unknown) (Option.some_ne_none _)
    | left _ rest =>
      obtain ⟨rfl, rfl⟩ := ih rest
      exact ⟨rfl, rfl⟩

theorem Accounts.length (account : Accounts steps title references shown left) :
    shown.length + left.length = references.length := by
  induction account with
  | nil => rfl
  | shown _ _ ih => rw [List.length_cons, List.length_cons, ← ih, Nat.add_right_comm]
  | left _ _ ih => rw [List.length_cons, List.length_cons, ← ih, Nat.add_assoc]

theorem AccountsAll.unique {groupings : List Grouping} {panels panels' : List Panel}
    {left' : List (String × String)} (account : AccountsAll steps groupings panels left)
    (other : AccountsAll steps groupings panels' left') : panels' = panels ∧ left' = left := by
  induction account generalizing panels' left' with
  | nil =>
    cases other
    exact ⟨rfl, rfl⟩
  | cons here _ ih =>
    cases other with
    | cons here' rest =>
      obtain ⟨rfl, rfl⟩ := here.unique here'
      obtain ⟨rfl, rfl⟩ := ih rest
      exact ⟨rfl, rfl⟩

theorem AccountsAll.names {groupings : List Grouping} {panels : List Panel}
    (account : AccountsAll steps groupings panels left) :
    panels.map (·.name) = groupings.map (·.title) := by
  induction account with
  | nil => rfl
  | cons _ _ ih => rw [List.map_cons, List.map_cons, ih]

theorem AccountsAll.count {groupings : List Grouping} {panels : List Panel}
    (account : AccountsAll steps groupings panels left) :
    total (fun panel => panel.steps.length) panels + left.length =
      total (fun grouping => grouping.references.length) groupings := by
  induction account with
  | nil => rfl
  | cons here _ ih =>
    rw [total_cons, total_cons, List.length_append, ← here.length, ← ih, Nat.add_add_add_comm]

end

section

variable (steps : StepTable) (title : String)

theorem accounts_panel (references : List String) :
    Accounts steps title references (panel steps ⟨title, references⟩).steps
      (dangling steps ⟨title, references⟩) := by
  induction references with
  | nil => exact .nil
  | cons reference references ih =>
    cases found : steps.get? reference with
    | some step => simpa [panel, panelStep?, dangling, Bindings.isBound, found] using ih.shown found
    | none => simpa [panel, panelStep?, dangling, Bindings.isBound, found] using ih.left found

theorem accountsAll_panels (groupings : List Grouping) :
    AccountsAll steps groupings (groupings.map (panel steps))
      (groupings.flatMap (dangling steps)) := by
  induction groupings with
  | nil => exact .nil
  | cons grouping groupings ih =>
    exact .cons (accounts_panel steps grouping.title grouping.references) ih

theorem panel_without (first last : List String) (unknown : steps.get? reference = none) :
    panel steps ⟨title, first ++ reference :: last⟩ = panel steps ⟨title, first ++ last⟩ := by
  simp [panel, panelStep?, unknown]

theorem dangling_cons (last : List String) (unknown : steps.get? reference = none) :
    dangling steps ⟨title, reference :: last⟩ =
      (title, reference) :: dangling steps ⟨title, last⟩ := by
  simp [dangling, Bindings.isBound, unknown]

/-- What is left over of groupings is what is left over up to a reference, and from there on. -/
theorem flatMap_dangling_split (before after : List Grouping) (first last : List String) :
    (before ++ ⟨title, first ++ last⟩ :: after).flatMap (dangling steps) =
      (before ++ [Grouping.mk title first]).flatMap (dangling steps) ++
        (dangling steps ⟨title, last⟩ ++ after.flatMap (dangling steps)) := by
  simp [dangling]

end

/-- The record of a quest has a panel for each grouping, in order and with its title, and accounts for
every reference once. An unknown reference less is one entry less among those left over, at its place,
and no other difference. -/
theorem references_accounted (name : String) (extraction : Extraction) :
    let assembly := (ofExtraction name extraction).value
    (∀ panels left, AccountsAll extraction.steps extraction.groupings panels left ↔
        panels = assembly.record.panels ∧ left = assembly.danglingSteps) ∧
      assembly.record.panels.map (·.name) = extraction.groupings.map (·.title) ∧
      assembly.record.stepCount + assembly.danglingSteps.length =
        total (fun grouping => grouping.references.length) extraction.groupings ∧
      ∀ before title first reference last after,
        extraction.groupings = before ++ ⟨title, first ++ reference :: last⟩ :: after →
        extraction.steps.get? reference = none →
        let groupings := before ++ ⟨title, first ++ last⟩ :: after
        let without := (ofExtraction name { extraction with groupings }).value
        without.record = assembly.record ∧
          without.unresolvedItems = assembly.unresolvedItems ∧
          ∃ panels earlier later,
            AccountsAll extraction.steps (before ++ [⟨title, first⟩]) panels earlier ∧
            assembly.danglingSteps = earlier ++ (title, reference) :: later ∧
            without.danglingSteps = earlier ++ later := by
  intro assembly
  have account : AccountsAll extraction.steps extraction.groupings assembly.record.panels
      assembly.danglingSteps := accountsAll_panels extraction.steps extraction.groupings
  refine ⟨fun panels left => ⟨account.unique, ?_⟩, account.names, account.count, ?_⟩
  · rintro ⟨rfl, rfl⟩
    exact account
  · intro before title first reference last after parted unknown groupings without
    have panels : groupings.map (panel extraction.steps) =
        extraction.groupings.map (panel extraction.steps) := by
      rw [parted, List.map_append, List.map_cons, List.map_append, List.map_cons,
        panel_without extraction.steps title first last unknown]
    refine ⟨congrArg (fun panels => { assembly.record with panels }) panels, rfl, _, _,
      dangling extraction.steps ⟨title, last⟩ ++ after.flatMap (dangling extraction.steps),
      accountsAll_panels extraction.steps (before ++ [⟨title, first⟩]), ?_,
      flatMap_dangling_split extraction.steps title before after first last⟩
    calc assembly.danglingSteps
        = (before ++ ⟨title, first ++ reference :: last⟩ :: after).flatMap
            (dangling extraction.steps) := by rw [← parted]; rfl
      _ = (before ++ [Grouping.mk title first]).flatMap (dangling extraction.steps) ++
            (dangling extraction.steps ⟨title, reference :: last⟩ ++
              after.flatMap (dangling extraction.steps)) :=
          flatMap_dangling_split extraction.steps title before after first (reference :: last)
      _ = _ := by rw [dangling_cons extraction.steps title last unknown, List.cons_append]

/-- Titles and references that come again, a panel without references, and one of unknown ones. -/
def scattered : Extraction where
  steps := .ofList [("talk", ⟨"talk", "Talk to Fred.", ⟨3200, 3210, 0⟩⟩),
    ("dig", ⟨"dig", "Dig here.", ⟨-1, 2, 3⟩⟩)]
  groupings := [⟨"Start", ["talk", "lost", "talk"]⟩, ⟨"Rest", []⟩, ⟨"Start", ["gone", "lost"]⟩,
    ⟨"End", ["dig"]⟩]

theorem references_accounted_scattered :
    let fewer := [⟨"Start", ["talk", "lost", "talk"]⟩, ⟨"Rest", []⟩, ⟨"Start", ["lost"]⟩,
      ⟨"End", ["dig"]⟩]
    let assembly := (ofExtraction "Farm" scattered).value
    let without := (ofExtraction "Farm" { scattered with groupings := fewer }).value
    scattered.steps.get? "gone" = none ∧
      assembly.record.panels =
        [⟨"Start", [⟨"Talk to Fred.", ⟨3200, 3210, 0⟩⟩, ⟨"Talk to Fred.", ⟨3200, 3210, 0⟩⟩]⟩,
          ⟨"Rest", []⟩, ⟨"Start", []⟩, ⟨"End", [⟨"Dig here.", ⟨-1, 2, 3⟩⟩]⟩] ∧
      assembly.danglingSteps = [("Start", "lost"), ("Start", "gone"), ("Start", "lost")] ∧
      assembly.record.stepCount + 3 = 6 ∧
      without.record = assembly.record ∧
      without.danglingSteps = [("Start", "lost"), ("Start", "lost")] := by
  intro fewer assembly without
  obtain ⟨account, -, count, less⟩ := references_accounted "Farm" scattered
  obtain ⟨account', -⟩ := references_accounted "Farm" { scattered with groupings := fewer }
  have unknown : scattered.steps.get? "gone" = none := by decide +kernel
  obtain ⟨same, -⟩ := less [⟨"Start", ["talk", "lost", "talk"]⟩, ⟨"Rest", []⟩] "Start" [] "gone"
    ["lost"] [⟨"End", ["dig"]⟩] rfl unknown
  obtain ⟨panels, left⟩ := (account _ _).mp <|
    .cons (.shown rfl (.left rfl (.shown rfl .nil))) <| .cons .nil <|
      .cons (.left rfl (.left rfl .nil)) <| .cons (.shown rfl .nil) .nil
  obtain ⟨-, fewerLeft⟩ := (account' _ _).mp <|
    .cons (.shown rfl (.left rfl (.shown rfl .nil))) <| .cons .nil <|
      .cons (.left rfl .nil) <| .cons (.shown rfl .nil) .nil
  rw [← left] at count
  exact ⟨unknown, panels.symm, left.symm, count, same, fewerLeft.symm⟩

end QuestRecords.Assembly
