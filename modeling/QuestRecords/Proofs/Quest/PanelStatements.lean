import QuestRecords.Proofs.Offsets.Lists
import QuestRecords.Proofs.Quest.StepStatements
import QuestRecords.Quest.Grouping

namespace QuestRecords

open Source Text

namespace Grouping

def constructedAt? (site : Site) : Option Grouping :=
  (Call.at? "PanelDetails".toList site).bind fun call => (ofCall call).value

theorem foundIn_eq_nil {behind stretch tail : Text}
    (silent : foundIn (Call.at? "PanelDetails".toList) behind stretch tail = []) :
    foundIn constructedAt? behind stretch tail = [] := by
  have read := foundIn_bind (Call.at? "PanelDetails".toList) (fun call => (ofCall call).value)
    behind stretch tail
  rwa [silent] at read

theorem value_mapM {α β : Type} (step : α → Logged β) (values : List α) :
    (values.mapM step).value = values.map fun value => (step value).value := by
  induction values with
  | nil => rfl
  | cons value values ih =>
    rw [List.mapM_cons, Logged.value_bind, Logged.value_bind, ih]
    rfl

theorem extract_value (body : Text) : (extract body).value = findAll constructedAt? body := by
  have found : findAll constructedAt? body =
      (constructorCalls body "PanelDetails".toList).filterMap fun call => (ofCall call).value :=
    List.filterMap_filterMap.symm
  rw [extract, Logged.value_bind, value_mapM, found, Logged.value_pure, List.filterMap_map]
  rfl

end Grouping

theorem Source.ListLiteral.parse?_listSource (items : List Identifier) :
    ListLiteral.parse? (listSource items) = some (items.map Identifier.text) := by
  have begins : after? "Arrays.asList".toList (listSource items) =
      some ('(' :: (commaSeparated (items.map Identifier.text) ++ [')'])) :=
    after?_eq_some_iff.mpr rfl
  have closed := (nested_commaSeparated (sole_of_mem_identifiers items)).parenthesised?_eq []
  have first : ListLiteral.argumentsOf? "Arrays.asList".toList (listSource items) =
      some (some (commaSeparated (items.map Identifier.text))) := by
    have start : trimStart ('(' :: (commaSeparated (items.map Identifier.text) ++ [')'])) =
        '(' :: (commaSeparated (items.map Identifier.text) ++ [')']) := rfl
    rw [Offsets.argumentsOf?_eq, begins, Option.bind_some, start, Offsets.soleParenthesis?, closed]
    rfl
  rw [ListLiteral.parse?, (sole_listSource items).trim_eq, ListLiteral.builders,
    List.findSome?_cons, first]
  exact congrArg some (identifiersIn_commaSeparated items)

/-- A panel as a statement adds it. -/
structure PanelStatement where
  title : PanelText
  references : List Identifier

namespace PanelStatement

variable (statement : PanelStatement)

def arguments : List Text :=
  [Literal.quote statement.title.text, listSource statement.references]

def panel : Text := callSource ("new ".toList ++ "PanelDetails".toList) statement.arguments

def text : Text := callSource "allSteps.add".toList [statement.panel] ++ [';']

def grouping : Grouping :=
  ⟨String.ofList statement.title.text, statement.references.map Identifier.name⟩

theorem sole_arguments : ∀ item ∈ statement.arguments, SoleArgument item := by
  intro item member
  simp only [arguments, List.mem_cons, List.not_mem_nil, or_false] at member
  rcases member with rfl | rfl
  · exact .of_quote _
  · exact sole_listSource _

theorem value_ofCall {call : Call} (arguments : call.arguments = statement.arguments) :
    (Grouping.ofCall call).value = some statement.grouping := by
  have title : Literal.ofArgument? (Literal.quote statement.title.text) =
      some statement.title.text := by
    have start : trimStart (Literal.quote statement.title.text) =
        Literal.quote statement.title.text ++ [] := by
      rw [List.append_nil]
      rfl
    rw [Literal.ofArgument?, start,
      Literal.chain?_quote _ (Literal.continuation?_eq_none_iff.mp rfl), Option.map_some]
  have list := ListLiteral.parse?_listSource statement.references
  simp [Grouping.ofCall, Call.firstArgument?, arguments, PanelStatement.arguments, title,
    Grouping.referencesOf, list, grouping, Function.comp_def, Identifier.name]

theorem constructedAt?_panel {behind : Text} (apart : behind.head?.any Call.continuesWord = false)
    (tail : Text) :
    Grouping.constructedAt? ⟨behind, statement.panel ++ tail⟩ = some statement.grouping := by
  rw [Grouping.constructedAt?, panel, Call.at?_callSource _ statement.sole_arguments
    (by decide +kernel) apart, Option.bind_some]
  exact statement.value_ofCall (Call.arguments_written statement.sole_arguments _ _)

/-- What stands behind the title, up to the end of the statement. -/
def behindTitle : Text := ", ".toList ++ (listSource statement.references ++ "))".toList)

theorem text_eq : statement.text = ("allSteps.add(".toList ++ "new PanelDetails(".toList) ++
    (Literal.quote statement.title.text ++ (statement.behindTitle ++ [';'])) := by
  unfold behindTitle
  simp [text, panel, arguments, callSource, commaSeparated, List.intercalate_cons_cons]

theorem not_mem_behindTitle {c : Char} (special : c = '=' ∨ c = '\x7b' ∨ c = '\x7d') :
    c ∉ statement.behindTitle := by
  have apart : c ∉ ", ".toList ∧ c ∉ "))".toList ∧ c ∉ "Arrays.asList(, )".toList ∧
      isIdentifierPart c = false := by
    rcases special with rfl | rfl | rfl <;> decide
  unfold behindTitle
  simp only [List.mem_append, not_or]
  exact ⟨apart.1, not_mem_listSource _ apart.2.2.1 apart.2.2.2, apart.2.1⟩

theorem foundIn_assignedAt? {kind : String} (known : kind ∈ Step.kinds) (behind tail : Text) :
    foundIn (Step.assignedAt? kind) behind statement.text tail = [] := by
  rw [text_eq]
  refine foundIn_append_eq_nil ?_ (foundIn_append_eq_nil ?_ (foundIn_append_eq_nil ?_ ?_))
  · exact foundIn_of_noEquals (fun _ _ => Step.isSome_assigned?_of_assignedAt?)
      (by decide +kernel) (by decide +kernel)
  · exact foundIn_of_noType (Step.isWord_of_mem_kind known)
      (fun _ _ => Step.isSome_assignment?_of_assignedAt?) (by decide +kernel)
      (statement.title.not_infix_quote (searched_of_mem_kinds known))
  · exact foundIn_of_noEquals (fun _ _ => Step.isSome_assigned?_of_assignedAt?)
      (by decide +kernel) (statement.not_mem_behindTitle (.inl rfl))
  · exact foundIn_of_noName (fun _ _ => Step.isSome_assigned?_of_assignedAt?) (by decide) _ _

theorem statements : Statements text := by
  intro statement
  have braceless : ∀ c, c = '\x7b' ∨ c = '\x7d' →
      c ∉ ("allSteps.add(".toList ++ "new PanelDetails(".toList) ++
        (Literal.quote statement.title.text ++ statement.behindTitle) := by
    intro c brace
    have apart : c ∉ "allSteps.add(".toList ++ "new PanelDetails(".toList := by
      rcases brace with rfl | rfl <;> decide
    simp only [List.mem_append, not_or] at apart ⊢
    exact ⟨apart, statement.title.braceless_quote brace, statement.not_mem_behindTitle (.inr brace)⟩
  exact ⟨_, by simp [text_eq], braceless _ (.inl rfl), braceless _ (.inr rfl)⟩

/-- No call of a constructor stands among names. -/
theorem foundIn_identifiers {typeName : Text} (stops : ',' ∉ "new".toList ++ typeName)
    (closes : ')' ∉ "new".toList ++ typeName) (items : List Identifier) (behind tail : Text) :
    foundIn (Call.at? typeName) behind (commaSeparated (items.map Identifier.text)) (')' :: tail) =
      [] := by
  have named : ∀ (item : Identifier), ∀ c ∈ item.text, isGap c = false := fun item c member =>
    isGap_of_isIdentifierPart (item.part_of_mem c member)
  induction items generalizing behind with
  | nil => rfl
  | cons item items ih =>
    cases items with
    | nil =>
      rw [List.map_singleton, commaSeparated, List.intercalate_singleton]
      exact Call.foundIn_at?_of_noGap ⟨closes, by decide⟩ (named item)
    | cons next items =>
      rw [List.map_cons, List.map_cons, commaSeparated, List.intercalate_cons_cons]
      refine foundIn_append_eq_nil (foundIn_append_eq_nil ?_ ?_) (ih _)
      · exact Call.foundIn_at?_of_noGap ⟨stops, by decide⟩ (named item)
      · exact Call.foundIn_at?_of_noN (by decide)

/-- What stands behind the first letter of a panel, up to the end of its statement. -/
def behindStart : Text :=
  "ew PanelDetails(".toList ++ (Literal.quote statement.title.text ++ (", Arrays.asList(".toList ++
    (commaSeparated (statement.references.map Identifier.text) ++ ")));".toList)))

theorem text_eq_behindStart :
    statement.text = "allSteps.add(".toList ++ 'n' :: statement.behindStart := by
  unfold behindStart
  simp [text, panel, arguments, callSource, listSource, commaSeparated,
    List.intercalate_cons_cons]

theorem panel_append (tail : Text) :
    statement.panel ++ (");".toList ++ tail) = 'n' :: (statement.behindStart ++ tail) := by
  unfold behindStart
  simp [panel, arguments, callSource, listSource, commaSeparated, List.intercalate_cons_cons]

theorem foundIn_behindStart (behind tail : Text) :
    foundIn (Call.at? "PanelDetails".toList) behind statement.behindStart tail = [] := by
  have unnamed : ¬ "PanelDetails".toList <:+: Literal.quote statement.title.text :=
    statement.title.not_infix_quote (by decide)
  refine foundIn_append_eq_nil ?_ (foundIn_append_eq_nil ?_ (foundIn_append_eq_nil ?_
    (foundIn_append_eq_nil ?_ ?_)))
  · exact Call.foundIn_at?_of_noNew (by decide +kernel) (by decide +kernel)
  · exact Call.foundIn_at?_of_noType (by decide +kernel) unnamed
  · exact Call.foundIn_at?_of_noN (by decide +kernel)
  · exact foundIn_identifiers (by decide +kernel) (by decide +kernel) _ _ _
  · exact Call.foundIn_at?_of_noN (by decide +kernel)

theorem foundIn_constructedAt? (behind tail : Text) :
    foundIn Grouping.constructedAt? behind statement.text tail = [statement.grouping] := by
  have before : ∀ tail, foundIn (Call.at? "PanelDetails".toList) behind "allSteps.add(".toList tail =
      [] := fun tail => Call.foundIn_at?_of_noN (by decide +kernel)
  have apart : ("allSteps.add(".toList.reverse ++ behind).head?.any Call.continuesWord = false := rfl
  rw [text_eq_behindStart, foundIn_append, Grouping.foundIn_eq_nil (before _), List.nil_append,
    foundIn, Grouping.foundIn_eq_nil (statement.foundIn_behindStart _ tail), List.append_nil,
    ← panel_append, statement.constructedAt?_panel apart, Option.toList_some]

/-- The groupings of a body in which panels are added are those of its statements. -/
theorem extract_laid {panels : List PanelStatement} {body : Text} (laid : Laid text panels body) :
    (Grouping.extract body).value = panels.map grouping := by
  have heads : ∀ c, isGap c = true → ∀ behind ahead,
      Grouping.constructedAt? ⟨behind, c :: ahead⟩ = none := by
    intro c gap behind ahead
    have other : c ≠ 'n' := by
      rintro rfl
      exact absurd gap (by decide)
    rw [Grouping.constructedAt?, Call.at?_of_head other, Option.bind_none]
  rw [Grouping.extract_value, findAll_eq_foundIn, foundIn_laid statements heads
    (fun statement => some statement.grouping)
    (fun statement behind tail _ => statement.foundIn_constructedAt? behind tail) laid .nil,
    List.filterMap_eq_map']

end PanelStatement
end QuestRecords
