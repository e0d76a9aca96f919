import QuestRecords.Proofs.Offsets.Steps
import QuestRecords.Quest.Grouping
import QuestRecords.Quest.ItemText

namespace QuestRecords.Offsets

open Text Source

def referencesOf (title : String) (expression : Text) : Guarded (List String) := do
  match ← parseListExpression expression with
  | some names => return names.map String.ofList
  | none =>
    Logged.raise (.debug "Panel step list not recognised"
      [("panel", title), ("expression", String.ofList expression)])
    return []

/-- The grouping of a call whose title is read. -/
def groupingOf (title : String) : Option Text → Guarded (Option Grouping)
  | none => return some { title, references := [] }
  | some expression => return some { title, references := ← referencesOf title expression }

/-- The grouping of a call; there is none without a readable title. -/
def panelOf (call : Call) : Guarded (Option Grouping) := do
  let args ← splitTopLevelArgs call.args
  match args.head? with
  | none => return none
  | some first =>
    match ← readStringArgument first with
    | none => return none
    | some title => groupingOf (String.ofList title) args[1]?

def panels (body : Text) : Guarded (List Grouping) := do
  let calls ← constructorCalls body "PanelDetails".toList
  return (← calls.mapM panelOf).filterMap id

/-- The match of an item with a literal as first argument; it ends behind the opening quote. -/
def itemMatch? (site : Site) : Option Variable :=
  (ItemTexts.directAt? site).map fun found =>
    { name := found.1, start := site.offset, stop := site.offsetAt found.2 + 1 }

def addItem (body : Text) (texts : ItemTexts) (found : Variable) : Guarded ItemTexts := do
  match ← readString body (← subtract found.stop 1) with
  | some reading => return texts.bindText (String.ofList found.name) (String.ofList reading.value)
  | none =>
    Logged.raise (.warning .unreadableLiteral "Unreadable requirement display text"
      [("variable", String.ofList found.name)])
    return texts

/-- The texts and aliases that a body sets up. -/
def itemTexts (body : Text) : Guarded ItemTexts := do
  let texts ← (findAll itemMatch? body).foldlM (addItem body) {}
  return (findAll ItemTexts.aliasAt? body).foldl
    (fun texts found => texts.bindAlias (String.ofList found.1) (String.ofList found.2)) texts

theorem referencesOf_returns {expression : Text} (fits : width expression < 0x80000000)
    (title : String) :
    referencesOf title expression = liftM (Grouping.referencesOf title expression) := by
  rw [referencesOf, parseListExpression_returns fits, liftM_ok, pure_bind, Grouping.referencesOf]
  cases ListLiteral.parse? expression <;> rfl

theorem panelOf_returns {call : Call} (fits : width call.args < 0x80000000) :
    panelOf call = liftM (Grouping.ofCall call) := by
  rw [panelOf, arguments_returns fits, liftM_ok, pure_bind, Grouping.ofCall, Call.firstArgument?]
  cases call.arguments.head? with
  | none => rfl
  | some first =>
    simp only [readStringArgument_returns, liftM_ok, pure_bind, Option.bind_some]
    cases Literal.ofArgument? first with
    | none => rfl
    | some title =>
      cases second : call.arguments[1]? with
      | none => rfl
      | some expression =>
        have inside := isInfix_of_mem_splitArguments (List.mem_of_getElem? second)
        simp only [groupingOf, referencesOf_returns (fits_of_isInfix inside fits)]
        rfl

/-- Reading panels by offsets never fails, tells the same and finds the same. -/
theorem panels_returns {body : Text} (fits : width body < 0x80000000) :
    panels body = liftM (Grouping.extract body) := by
  rw [panels, constructorCalls_returns, liftM_ok, pure_bind,
    mapM_lift fun call member => panelOf_returns (args_fit member fits)]
  rfl

theorem addItem_site {body : Text} {site : Site} (place : site ∈ sites body) {found : Variable}
    (matched : itemMatch? site = some found) (texts : ItemTexts) :
    addItem body texts found =
      liftM ((ItemTexts.directAt? site).elim (pure texts) (ItemTexts.addDirect texts)) := by
  obtain ⟨⟨name, literal⟩, read, same⟩ := Option.map_eq_some_iff.mp matched
  cases same
  obtain ⟨header, split⟩ := ItemTexts.directAt?_suffix read
  have whole : body = site.behind.reverse ++ header ++ literal := by
    rw [← site_text site split.symm, text_of_mem_sites place]
  rw [addItem, Site.offsetAt_of_append split.symm, subtract_succ, liftM_ok, pure_bind,
    readString_returns, liftM_ok, pure_bind, read, Option.elim_some, ItemTexts.addDirect,
    site_offset, whole, Literal.read?, splitAt?_width]
  cases chain : Literal.chain? literal with
  | none => simp [chain]
  | some parts => simp [chain]

/-- Reading item texts by offsets never fails, tells the same and finds the same. -/
theorem itemTexts_returns (body : Text) : itemTexts body = liftM (ItemTexts.extract body) := by
  have direct : (findAll itemMatch? body).foldlM (addItem body) {} =
      liftM ((findAll ItemTexts.directAt? body).foldlM ItemTexts.addDirect {}) := by
    apply foldlM_filterMap_lift
    · intro site place found matched texts
      exact addItem_site place matched texts
    · intro site _ missing
      exact Option.map_eq_none_iff.mp missing
  rw [itemTexts, direct]
  rfl

end QuestRecords.Offsets
