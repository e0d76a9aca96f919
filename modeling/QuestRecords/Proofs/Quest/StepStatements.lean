import QuestRecords.Proofs.Source.Numerals
import QuestRecords.Proofs.Source.Statements
import QuestRecords.Proofs.Source.WrittenCalls
import QuestRecords.Proofs.Text.Split
import QuestRecords.Quest.Step

namespace QuestRecords

open Source Text

/-- The names of types by which steps, places and panels are found. -/
def searchedTypes : List String := ["NpcStep", "ObjectStep", "WorldPoint", "PanelDetails"]

theorem searched_of_mem_kinds {kind : String} (known : kind ∈ Step.kinds) :
    kind ∈ searchedTypes := by
  revert kind
  decide

/-- A title or a description: a text without braces in which no searched type is named. -/
structure PanelText where
  text : Text
  noOpening : '\x7b' ∉ text
  noClosing : '\x7d' ∉ text
  unnamed : ∀ type ∈ searchedTypes, ¬ type.toList <:+: text

namespace PanelText

variable (shown : PanelText)

/-- No searched type is named in the text as it is written. -/
theorem not_infix_quote {type : String} (known : type ∈ searchedTypes) :
    ¬ type.toList <:+: Literal.quote shown.text := by
  have letters : ∀ type ∈ searchedTypes,
      type.toList ≠ [] ∧ '"' ∉ type.toList ∧ '\\' ∉ type.toList := by
    decide +kernel
  obtain ⟨filled, noQuote, noEscape⟩ := letters type known
  have unescaped := Literal.Unescaped.of_not_mem noQuote noEscape
  intro inside
  apply shown.unnamed type known
  obtain ⟨c, word, same⟩ := List.exists_cons_of_ne_nil filled
  rw [same] at inside unescaped ⊢
  exact Literal.infix_of_infix_quote unescaped inside

theorem braceless_quote {c : Char} (brace : c = '\x7b' ∨ c = '\x7d') :
    c ∉ Literal.quote shown.text := by
  intro member
  rcases Literal.mem_quote member with rfl | rfl | inside
  · exact absurd brace (by decide)
  · exact absurd brace (by decide)
  · rcases brace with rfl | rfl
    · exact shown.noOpening inside
    · exact shown.noClosing inside

end PanelText

namespace Step

theorem isWord_of_mem_kind {kind : String} (known : kind ∈ kinds) :
    ∀ c ∈ kind.toList, isWord c = true := by
  apply List.all_eq_true.mp
  revert kind
  decide +kernel

/-- The step of an assignment, if its call can be read. -/
def readable? (assignment : String × Call) : Option Step :=
  (content? assignment.2.text).map fun (point, description) =>
    ⟨assignment.1, String.ofList description, point⟩

def assignedAt? (kind : String) (site : Site) : Option Step := (at? kind site).bind readable?

theorem isSome_assignment?_of_assignedAt? {kind : String} {site : Site} {step : Step}
    (read : assignedAt? kind site = some step) : (assignment? kind site).isSome = true := by
  obtain ⟨assignment, read, -⟩ := Option.bind_eq_some_iff.mp read
  obtain ⟨parts, read, -⟩ := Option.bind_eq_some_iff.mp read
  exact Option.isSome_iff_exists.mpr ⟨parts, read⟩

theorem isSome_assigned?_of_assignedAt? {kind : String} {site : Site} {step : Step}
    (read : assignedAt? kind site = some step) : (assigned? site).isSome = true := by
  obtain ⟨parts, read⟩ := Option.isSome_iff_exists.mp (isSome_assignment?_of_assignedAt? read)
  obtain ⟨parts, read, -⟩ := Option.bind_eq_some_iff.mp read
  exact Option.isSome_iff_exists.mpr ⟨parts, read⟩

theorem value_foldlM_add (kind : String) (assignments : List (String × Call)) (steps : StepTable) :
    (assignments.foldlM (add kind) steps).value =
      (assignments.filterMap readable?).foldl StepTable.insertFirst steps := by
  induction assignments generalizing steps with
  | nil => rfl
  | cons assignment assignments ih =>
    rw [List.foldlM_cons, Logged.value_bind, ih, List.filterMap_cons, add, readable?]
    cases content? assignment.2.text <;> rfl

/-- The steps of a source are added as they are found, kind by kind. -/
theorem extract_value_eq_foldl (source : Text) :
    (extract source).value =
      (kinds.flatMap fun kind => findAll (assignedAt? kind) source).foldl
        StepTable.insertFirst ∅ := by
  have found : ∀ kind, (findAll (at? kind) source).filterMap readable? =
      findAll (assignedAt? kind) source := fun kind => List.filterMap_filterMap
  have tables : ∀ (kinds : List String) (steps : StepTable),
      (kinds.foldlM (fun steps kind => (findAll (at? kind) source).foldlM (add kind) steps)
        steps).value =
        (kinds.flatMap fun kind => findAll (assignedAt? kind) source).foldl
          StepTable.insertFirst steps := by
    intro kinds steps
    induction kinds generalizing steps with
    | nil => rfl
    | cons kind kinds ih =>
      rw [List.foldlM_cons, Logged.value_bind, ih, value_foldlM_add, found, List.flatMap_cons,
        List.foldl_append]
  exact tables kinds ∅

/-- The steps of a source are the first ones found of each name, kind by kind. -/
theorem extract_value (source : Text) (name : String) :
    (extract source).value.get? name =
      ((kinds.flatMap fun kind => findAll (assignedAt? kind) source).map
        fun step => (step.name, step)).lookup name := by
  have inserted : ∀ steps : List Step, steps.foldl StepTable.insertFirst ∅ =
      (steps.map fun step => (step.name, step)).foldl
        (fun bindings pair => Bindings.insertFirst bindings pair.1 pair.2) ∅ := by
    intro steps
    rw [List.foldl_map]
    rfl
  rw [extract_value_eq_foldl, inserted, Bindings.get?_foldl_insertFirst]
  exact Option.none_or

end Step

/-- A step as a statement assigns it. -/
structure StepStatement where
  name : Identifier
  kind : String
  known : kind ∈ Step.kinds
  point : WorldPoint
  description : PanelText

namespace StepStatement

variable (statement : StepStatement)

def coordinates : List Text :=
  [numeral statement.point.x.toInt, numeral statement.point.y.toInt,
    numeral statement.point.plane.toInt]

def place : Text := callSource ("new ".toList ++ "WorldPoint".toList) statement.coordinates

def arguments : List Text :=
  ["this".toList, "1".toList, statement.place, Literal.quote statement.description.text]

def value : Text := callSource ("new ".toList ++ statement.kind.toList) statement.arguments

def text : Text := statement.name.text ++ (" = ".toList ++ (statement.value ++ [';']))

def step : Step where
  name := statement.name.name
  description := String.ofList statement.description.text
  point := statement.point

theorem sole_coordinates : ∀ item ∈ statement.coordinates, SoleArgument item := by
  intro item member
  simp only [coordinates, List.mem_cons, List.not_mem_nil, or_false] at member
  rcases member with rfl | rfl | rfl <;> exact .of_numeral _

theorem sole_arguments : ∀ item ∈ statement.arguments, SoleArgument item := by
  intro item member
  simp only [arguments, List.mem_cons, List.not_mem_nil, or_false] at member
  rcases member with rfl | rfl | rfl | rfl
  · exact .of_solid (by decide +kernel) (by decide +kernel) (eq_false_of_any (by decide +kernel))
  · exact .of_solid (by decide +kernel) (by decide +kernel) (eq_false_of_any (by decide +kernel))
  · exact .of_call (by decide +kernel) ⟨'n', _, rfl, by decide⟩ statement.sole_coordinates
  · exact .of_quote _

theorem point?_coordinates : Step.point? statement.coordinates = some statement.point := by
  rw [Step.point?, coordinates]
  simp [coordinate_numeral]

/-- What stands before the place in a step as it is written. -/
def beforePlace : Text :=
  (statement.name.text ++ [' ']) ++
    (("= new ".toList ++ (statement.kind.toList ++ "(this".toList)) ++ ", 1, ".toList)

def behindPlace : Text := [',', ' '] ++ (Literal.quote statement.description.text ++ [')'])

/-- The call by which a statement is read: what it assigns, with the variable before it. -/
def head : Text := statement.name.text ++ (" = ".toList ++ ("new ".toList ++ statement.kind.toList))

theorem callSource_head : callSource statement.head statement.arguments =
    statement.beforePlace ++ (statement.place ++ statement.behindPlace) := by
  simp [callSource, head, arguments, beforePlace, behindPlace, commaSeparated,
    List.intercalate_cons_cons]

theorem foundIn_beforePlace (tail : Text) :
    foundIn (Call.at? "WorldPoint".toList) [] statement.beforePlace ('n' :: tail) = [] := by
  have named : ∀ c ∈ statement.name.text, isGap c = false := fun c member =>
    isGap_of_isIdentifierPart (statement.name.part_of_mem c member)
  have typed : ¬ "WorldPoint".toList <:+:
      "= new ".toList ++ (statement.kind.toList ++ "(this".toList) := by
    have known := statement.known
    simp only [Step.kinds, List.mem_cons, List.not_mem_nil, or_false] at known
    rcases known with same | same <;> rw [same] <;> decide +kernel
  refine foundIn_append_eq_nil ?_ (foundIn_append_eq_nil ?_ ?_)
  · exact Call.foundIn_at?_of_lastGap (by decide +kernel) named (by decide +kernel)
      (by decide +kernel)
  · exact Call.foundIn_at?_of_noType (by decide +kernel) typed
  · exact Call.foundIn_at?_of_noN (by decide +kernel)

/-- The place and the description of a step are read back. -/
theorem content?_callSource_head :
    Step.content? (callSource statement.head statement.arguments) =
      some (statement.point, statement.description.text) := by
  have apart : statement.beforePlace.reverse.head?.any Call.continuesWord = false := by
    simp only [beforePlace, List.reverse_append]
    rfl
  have here := Call.at?_callSource "WorldPoint".toList statement.sole_coordinates
    (by decide +kernel) apart statement.behindPlace
  have first : findFirst? (Call.at? "WorldPoint".toList)
      (statement.beforePlace ++ (statement.place ++ statement.behindPlace)) =
        some (Call.written statement.beforePlace.reverse ("new ".toList ++ "WorldPoint".toList)
          statement.coordinates) :=
    findFirst?_append (statement.foundIn_beforePlace _) here
  have behind : (statement.beforePlace ++ (statement.place ++ statement.behindPlace)).splitAt?
      (width (statement.beforePlace ++ statement.place)) =
        some (statement.beforePlace ++ statement.place, statement.behindPlace) := by
    rw [← List.append_assoc, splitAt?_width]
  have literal : statement.behindPlace.dropWhile (· != '"') =
      Literal.quote statement.description.text ++ [')'] := rfl
  have shown : Literal.chain? (Literal.quote statement.description.text ++ [')']) =
      some (statement.description.text, [')']) :=
    Literal.chain?_quote _ (Literal.continuation?_eq_none_iff.mp rfl)
  have stop : (Call.written statement.beforePlace.reverse ("new ".toList ++ "WorldPoint".toList)
      statement.coordinates).stop = width (statement.beforePlace ++ statement.place) := by
    rw [Call.written, List.reverse_reverse, place]
  rw [callSource_head, Step.content?, first]
  simp only [Option.bind_eq_bind, Option.bind_some,
    Call.arguments_written statement.sole_coordinates, point?_coordinates, stop, behind, literal,
    shown]
  rfl

theorem newOfAny?_value {kind : String} (known : kind ∈ Step.kinds) (tail : Text) :
    newOfAny? [kind] (statement.value ++ tail) =
      if statement.kind = kind then
        some ('(' :: (commaSeparated statement.arguments ++ ')' :: tail))
      else none := by
  have known' := statement.known
  rw [value, callSource_append, List.append_assoc]
  simp only [Step.kinds, List.mem_cons, List.not_mem_nil, or_false] at known known'
  rcases known' with same | same <;> rw [same] <;> rcases known with rfl | rfl
  · rw [if_pos rfl]
    rfl
  · rw [if_neg (by decide)]
    rfl
  · rw [if_neg (by decide)]
    rfl
  · rw [if_pos rfl]
    rfl

/-- A statement is read as its step by its own kind. -/
theorem assignedAt?_text {behind : Text} (start : AtStatement behind) {kind : String}
    (known : kind ∈ Step.kinds) (tail : Text) :
    Step.assignedAt? kind ⟨behind, statement.text ++ tail⟩ =
      if statement.kind = kind then some statement.step else none := by
  have whole : statement.text ++ tail =
      statement.name.text ++ (" = ".toList ++ (statement.value ++ ';' :: tail)) := by
    simp [text]
  have assigned : assigned? ⟨behind, statement.text ++ tail⟩ =
      some (statement.name.text, statement.value ++ ';' :: tail) := by
    rw [whole]
    exact assigned?_written statement.name start (c := 'n') rfl (by decide)
  have called : statement.text ++ tail =
      callSource statement.head statement.arguments ++ ';' :: tail := by
    rw [whole]
    simp [callSource, head, value]
  have read := Call.ofParen?_callSource statement.sole_arguments behind statement.head (';' :: tail)
  rw [Step.assignedAt?, Step.at?, assignment?, assigned]
  simp only [Option.bind_eq_bind, Option.bind_some, newOfAny?_value statement known]
  split
  · have content := statement.content?_callSource_head
    simp only [called, Option.pure_def, Option.bind_some, read, Step.readable?, Call.written,
      content]
    rfl
  · rfl

/-- What is assigned, up to the description. -/
def front : Text :=
  "new ".toList ++ (statement.kind.toList ++ ("(this, 1, ".toList ++ (statement.place ++ [',', ' '])))

theorem value_eq :
    statement.value = statement.front ++ (Literal.quote statement.description.text ++ [')']) := by
  unfold front
  simp [value, callSource, arguments, commaSeparated, List.intercalate_cons_cons]

theorem not_mem_place {c : Char} (absent : c ∉ "-, ()new WorldPoint".toList)
    (part : isIdentifierPart c = false) : c ∉ statement.place := by
  have coordinate : ∀ item ∈ statement.coordinates, c ∉ item := by
    intro item member
    simp only [coordinates, List.mem_cons, List.not_mem_nil, or_false] at member
    rcases member with rfl | rfl | rfl <;> exact not_mem_numeral _ (by simp_all) part
  have listed := not_mem_commaSeparated coordinate (by simp_all) (by simp_all)
  exact not_mem_callSource (by simp_all) listed (by simp_all) (by simp_all)

theorem not_mem_front {c : Char} (special : c = '=' ∨ c = '\x7b' ∨ c = '\x7d') :
    c ∉ statement.front := by
  have place : c ∉ statement.place := by
    rcases special with rfl | rfl | rfl <;> exact statement.not_mem_place (by decide) (by decide)
  have written : c ∉ "new ".toList ∧ c ∉ statement.kind.toList ∧ c ∉ "(this, 1, ".toList ∧
      c ∉ [',', ' '] := by
    have known := statement.known
    simp only [Step.kinds, List.mem_cons, List.not_mem_nil, or_false] at known
    rcases known with same | same <;> rw [same] <;> rcases special with rfl | rfl | rfl <;> decide
  unfold front
  simp only [List.mem_append, not_or]
  exact ⟨written.1, written.2.1, written.2.2.1, place, written.2.2.2⟩

/-- What a statement assigns has no equals sign before its description, and names no kind in it. -/
theorem foundIn_value {kind : String} (known : kind ∈ Step.kinds) (behind tail : Text) :
    foundIn (Step.assignedAt? kind) behind statement.value (';' :: tail) = [] := by
  rw [value_eq]
  -- An equals sign may stand in the description, so it is the kind that is missing there.
  refine foundIn_append_eq_nil ?_ (foundIn_append_eq_nil ?_ ?_)
  · exact foundIn_of_noEquals (fun _ _ => Step.isSome_assigned?_of_assignedAt?)
      (by decide +kernel) (statement.not_mem_front (.inl rfl))
  · exact foundIn_of_noType (Step.isWord_of_mem_kind known)
      (fun _ _ => Step.isSome_assignment?_of_assignedAt?) (by decide +kernel)
      (statement.description.not_infix_quote (searched_of_mem_kinds known))
  · exact foundIn_of_noName (fun _ _ => Step.isSome_assigned?_of_assignedAt?) (by decide) _ _

/-- A statement is found once among the steps of its kind, and not among those of another. -/
theorem foundIn_assignedAt? {kind : String} (known : kind ∈ Step.kinds) (behind tail : Text)
    (start : AtStatement behind) :
    foundIn (Step.assignedAt? kind) behind statement.text tail =
      (if statement.kind = kind then some statement.step else none).toList := by
  have whole : statement.name.text ++ (" = ".toList ++ (statement.value ++ ';' :: tail)) =
      statement.text ++ tail := by
    simp [text]
  rw [text, foundIn_assignment (fun _ _ => Step.isSome_assigned?_of_assignedAt?) _
    (fun _ => statement.foundIn_value known _ tail), whole, statement.assignedAt?_text start known]

theorem braceless {c : Char} (brace : c = '\x7b' ∨ c = '\x7d') :
    c ∉ statement.name.text ++ (" = ".toList ++ statement.value) := by
  have apart : isIdentifierPart c = false ∧ c ∉ " = ".toList ∧ c ≠ ')' := by
    rcases brace with rfl | rfl <;> decide
  have front := statement.not_mem_front (.inr brace)
  have shown := statement.description.braceless_quote brace
  rw [value_eq]
  simp only [List.mem_append, List.mem_singleton, not_or]
  exact ⟨statement.name.not_mem apart.1, apart.2.1, front, shown, apart.2.2⟩

theorem statements : Statements text := fun statement =>
  ⟨statement.name.text ++ (" = ".toList ++ statement.value), by simp [text],
    statement.braceless (.inl rfl), statement.braceless (.inr rfl)⟩

end StepStatement
end QuestRecords
