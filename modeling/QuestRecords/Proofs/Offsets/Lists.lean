import QuestRecords.Proofs.Offsets.Arguments
import QuestRecords.Proofs.Offsets.Calls

namespace QuestRecords.Offsets

open Text Source

/-- The identifiers of an expression whose arguments open at an offset. There is nothing when they
do not, and nothing inside when they do not run to the end of the expression. -/
def listFrom (expression : Text) (openParen : Nat) : Checked (Option (Option (List Text))) := do
  if !holds expression openParen '(' then return none
  match ← matchingParen expression openParen with
  | none => return some none
  | some close =>
    if !(trim (← sliceFrom expression (close + 1))).isEmpty then return some none
    return some (some (← identifiersIn (← slice expression (openParen + 1) close)))

/-- The identifiers of an expression that is one call of a builder. -/
def listOf (expression builder : Text) : Checked (Option (Option (List Text))) := do
  match after? builder expression with
  | none => return none
  | some rest =>
    listFrom expression (← subtract (width expression) (width (trimStart rest)))

/-- The identifiers of an expression that is exactly one list literal. -/
def parseListExpression (expression : Text) : Checked (Option (List Text)) := do
  return (← firstSome (listOf (trim expression)) ListLiteral.builders).join

/-- The list literal of a builder that starts at an offset. -/
def listAt (text builder : Text) (start : Nat) : Checked (Option ListLiteral) := do
  if ← follows ListLiteral.continuesName text start then return none
  let openParen := skipWhitespace text (start + width builder)
  match ← matchingParen text openParen with
  | none => return none
  | some close => return some ⟨start, ← identifiersIn (← slice text (openParen + 1) close)⟩

def findListLiterals (text : Text) : Checked (List ListLiteral) := do
  let found ← ListLiteral.builders.mapM fun builder =>
    gather (listAt text builder) (occurrences text builder)
  return found.flatten.mergeSort fun left right => left.start ≤ right.start

theorem narrow_of_continuesName (c : Char) (continues : ListLiteral.continuesName c = true) :
    c.utf8Size = 1 := by
  simp only [ListLiteral.continuesName, Bool.or_eq_true, beq_iff_eq] at continues
  rcases continues with alphanumeric | rfl
  · exact narrow_of_isAlphanum alphanumeric
  · rfl

theorem width_args_le {paren args rest : Text} (read : parenthesised? paren = some (args, rest)) :
    width args ≤ width paren := by
  rw [parenthesised?_eq_append read]
  simp only [width_cons, width_append]
  omega

theorem listAt_site {builder rest : Text} (site : Site) (split : site.ahead = builder ++ rest)
    (fits : width site.text < 0x80000000) :
    listAt site.text builder site.offset = .ok (ListLiteral.at? builder site) := by
  have behindGaps : site.ahead = builder ++ rest.takeWhile isGap ++ skipGaps rest := by
    rw [List.append_assoc, takeWhile_append_skipGaps, split]
  rw [listAt, follows_site narrow_of_continuesName, ok_bind, ListLiteral.at?, split,
    after?_eq_some_iff.mpr rfl]
  simp only [skipWhitespace_site site split, matchingParen_site site behindGaps]
  by_cases continues : site.behind.head?.any ListLiteral.continuesName = true
  · simp [continues]
  cases read : parenthesised? (skipGaps rest) with
  | none => simp [continues, read]
  | some parts =>
    obtain ⟨args, after⟩ := parts
    have short : width args < 0x80000000 := by
      have := width_args_le read
      rw [site_text site behindGaps, width_append] at fits
      omega
    simp [-width_append, continues, read, slice_args_site site behindGaps read,
      identifiersIn_returns short]

theorem mapM_ok {read : α → Checked β} {result : α → β} {values : List α}
    (each : ∀ value ∈ values, read value = .ok (result value)) :
    values.mapM read = .ok (values.map result) := by
  induction values with
  | nil => rfl
  | cons value rest ih =>
    have ih := ih (fun other member => each other (List.mem_cons_of_mem _ member))
    rw [List.mapM_cons, each value List.mem_cons_self, ok_bind, ih, ok_bind, List.map_cons,
      pure_eq_ok]

/-- Finding list literals by offsets never fails and finds the same lists. -/
theorem findListLiterals_returns {text : Text} (fits : width text < 0x80000000) :
    findListLiterals text = .ok (ListLiteral.findIn text) := by
  have each : ∀ builder ∈ ListLiteral.builders,
      gather (listAt text builder) (occurrences text builder) =
        .ok (findAll (ListLiteral.at? builder) text) := by
    intro builder member
    rw [occurrences_of_unbordered (unbordered_of_mem_builders member)]
    apply gather_filterMap
    · intro site place start found
      obtain ⟨⟨rest, split⟩, rfl⟩ := found?_eq_some_iff.mp found
      have whole := text_of_mem_sites place
      rw [← whole] at fits ⊢
      exact listAt_site site split fits
    · intro site place missing
      simp [ListLiteral.at?, after?_of_found? missing]
  rw [findListLiterals, mapM_ok each, ok_bind, ListLiteral.findIn, List.flatMap_def, pure_eq_ok]

theorem takeWhile_append_trimStart (text : Text) :
    text.takeWhile isBlank ++ trimStart text = text :=
  List.takeWhile_append_dropWhile

/-- The arguments of a text that is one parenthesis and nothing else, blanks aside. -/
def soleParenthesis? (text : Text) : Option (Option Text) :=
  if text.head?.any (· == '(') then
    some ((parenthesised? text).bind fun read =>
      if (trim read.2).isEmpty then some read.1 else none)
  else none

theorem argumentsOf?_eq (builder expression : Text) :
    ListLiteral.argumentsOf? builder expression =
      (after? builder expression).bind fun rest => soleParenthesis? (trimStart rest) := by
  rw [ListLiteral.argumentsOf?]
  cases after? builder expression with
  | none => rfl
  | some rest =>
    rw [Option.bind_eq_bind, Option.bind_some, Option.bind_some, soleParenthesis?]
    split
    · rename_i inside opens
      rw [opens]
      cases parenthesised? ('(' :: inside) with
      | none => rfl
      | some read => rfl
    · rename_i other
      have apart : ¬ (trimStart rest).head?.any (· == '(') = true := by
        intro opens
        obtain ⟨inside, opens⟩ := head?_any_beq_iff.mp opens
        exact other inside opens
      rw [if_neg apart]

theorem listFrom_append {header paren : Text} (fits : width (header ++ paren) < 0x80000000) :
    listFrom (header ++ paren) (width header) =
      .ok ((soleParenthesis? paren).map (Option.map Source.identifiersIn)) := by
  rw [listFrom, holds_append rfl, matchingParen_append, soleParenthesis?]
  by_cases opens : paren.head?.any (· == '(') = true
  · cases read : parenthesised? paren with
    | none => simp [opens]
    | some parts =>
      obtain ⟨args, after⟩ := parts
      have whole := parenthesised?_eq_append read
      have short : width args < 0x80000000 := by
        have := width_args_le read
        rw [width_append] at fits
        omega
      have argsSlice : slice (header ++ paren) (width header + 1)
          (width header + 1 + width args) = .ok args := by
        apply slice_ok (header ++ ['(']) (')' :: after)
        · simp [whole]
        · simp
        · simp
      have rest : sliceFrom (header ++ paren) (width header + 1 + width args + 1) =
          .ok after := by
        have behind := sliceFrom_append (header ++ '(' :: (args ++ [')'])) after
        simp only [List.append_assoc, List.cons_append, List.nil_append, ← whole, width_append,
          width_cons, width_nil, utf8Size_openParen, utf8Size_closeParen, Nat.add_zero] at behind
        simpa only [Nat.add_assoc] using behind
      by_cases blank : trim after = []
      · simp [opens, rest, blank, argsSlice, identifiersIn_returns short]
      · simp [opens, rest, blank]
  · simp [opens]

theorem listOf_returns {expression : Text} (fits : width expression < 0x80000000) (builder : Text) :
    listOf expression builder = .ok
      ((ListLiteral.argumentsOf? builder expression).map (Option.map Source.identifiersIn)) := by
  rw [listOf, argumentsOf?_eq]
  cases named : after? builder expression with
  | none => rfl
  | some rest =>
    have split : expression = builder ++ rest.takeWhile isBlank ++ trimStart rest := by
      rw [List.append_assoc, takeWhile_append_trimStart, after?_eq_some_iff.mp named]
    have openParen : subtract (width expression) (width (trimStart rest)) =
        .ok (width (builder ++ rest.takeWhile isBlank)) := by
      rw [split, width_append _ (trimStart rest), subtract_of_le (Nat.le_add_left ..),
        Nat.add_sub_cancel]
    rw [split] at fits
    simp only [openParen, ok_bind, Option.bind_some]
    rw [split, listFrom_append fits]

/-- Reading an expression by offsets never fails and gives the same identifiers. -/
theorem parseListExpression_returns {expression : Text} (fits : width expression < 0x80000000) :
    parseListExpression expression = .ok (ListLiteral.parse? expression) := by
  have short : width (trim expression) < 0x80000000 :=
    Nat.lt_of_le_of_lt (width_le_of_isInfix (trim_isInfix expression)) fits
  rw [parseListExpression, firstSome_ok fun builder _ => listOf_returns short builder, ok_bind,
    ListLiteral.parse?, pure_eq_ok]
  apply congrArg
  have mapped := List.map_findSome? (l := ListLiteral.builders)
    (f := fun builder => ListLiteral.argumentsOf? builder (trim expression))
    (g := Option.map Source.identifiersIn)
  simp only [Function.comp_def] at mapped
  rw [← mapped, Option.join_map_eq_map_join]

end QuestRecords.Offsets
