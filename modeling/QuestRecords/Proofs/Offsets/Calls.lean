import QuestRecords.Proofs.Offsets.Brackets
import QuestRecords.Proofs.Offsets.Occurrences

namespace QuestRecords.Offsets

open Text Source

def follows (test : Char → Bool) (text : Text) (start : Nat) : Checked Bool :=
  if 0 < start then do
    let byte ← byteAt text (← subtract start 1)
    return (ascii? byte).any test
  else return false

/-- The call that starts at one offset and whose type name ends at another. -/
def callBehindType (text : Text) (start typeEnd : Nat) : Checked (Option Call) := do
  if shows Call.continuesWord text typeEnd then return none
  let openParen := skipWhitespace text typeEnd
  if !holds text openParen '(' then return none
  callAt text start openParen

/-- The constructor call of a type whose word `new` starts at an offset. -/
def constructorAt (typeName text : Text) (start : Nat) : Checked (Option Call) := do
  if ← follows Call.continuesWord text start then return none
  let typeStart := skipWhitespace text (start + 3)
  if typeStart = start + 3 then return none
  if (after? typeName (← sliceFrom text typeStart)).isNone then return none
  callBehindType text start (typeStart + width typeName)

def constructorCalls (text typeName : Text) : Checked (List Call) :=
  gather (constructorAt typeName text) (occurrences text ['n', 'e', 'w'])

theorem narrow_of_continuesWord (c : Char) (continues : Call.continuesWord c = true) :
    c.utf8Size = 1 := by
  simp only [Call.continuesWord, Bool.or_eq_true, beq_iff_eq] at continues
  rcases continues with ((alphanumeric | rfl) | rfl) | rfl
  · exact narrow_of_isAlphanum alphanumeric
  all_goals rfl

theorem follows_site {test : Char → Bool} (narrow : ∀ c, test c = true → c.utf8Size = 1)
    (site : Site) : follows test site.text site.offset = .ok (site.behind.head?.any test) := by
  obtain ⟨behind, ahead⟩ := site
  cases behind with
  | nil => rfl
  | cons c behind =>
    have positive := c.utf8Size_pos
    obtain ⟨byte, here, shown⟩ := exists_byte_inside behind.reverse ahead
      (Nat.sub_lt positive Nat.one_pos)
    have offset : width (c :: behind) - 1 = width behind.reverse + (c.utf8Size - 1) := by
      rw [width_cons, width_reverse]
      omega
    rw [follows, if_pos (by simp only [Site.offset, width_cons]; omega),
      subtract_of_le (by simp only [Site.offset, width_cons]; omega), ok_bind]
    have found : byteAt (Site.text ⟨c :: behind, ahead⟩) (width (c :: behind) - 1) = .ok byte := by
      apply byteAt_of_byte?
      rw [offset]
      simpa [Site.text] using here
    rw [Site.offset, found, ok_bind, shown, any_shown? narrow]
    rfl

theorem skipGaps1?_eq (text : Text) :
    skipGaps1? text = if text.takeWhile isGap = [] then none else some (skipGaps text) := by
  cases text with
  | nil => rfl
  | cons c rest =>
    by_cases gap : isGap c = true
    · simp [skipGaps1?, skipGaps, gap]
    · simp [skipGaps1?, gap]

/-- The text from the opening parenthesis on, behind a whole word and gaps. -/
def parenBehindType? (afterType : Text) : Option Text :=
  if afterType.head?.any Call.continuesWord then none
  else if (skipGaps afterType).head?.any (· == '(') then some (skipGaps afterType) else none

theorem header?_eq (typeName : Text) (site : Site) :
    Call.header? typeName site =
      if site.behind.head?.any Call.continuesWord then none
      else ((after? ['n', 'e', 'w'] site.ahead).bind skipGaps1?).bind fun atType =>
        (after? typeName atType).bind parenBehindType? := by
  rw [Call.header?]
  by_cases continues : site.behind.head?.any Call.continuesWord = true
  · simp [continues]
  simp only [continues, Option.bind_eq_bind, Option.bind_assoc]
  simp only [Bool.false_eq_true, if_false]
  congr 1
  funext afterNew
  congr 1
  funext atType
  congr 1
  funext afterType
  by_cases longer : afterType.head?.any Call.continuesWord = true
  · simp [longer, parenBehindType?]
  simp only [longer, Bool.false_eq_true, if_false, parenBehindType?]
  split
  · simp_all
  · rename_i other
    cases same : skipGaps afterType with
    | nil => rfl
    | cons c rest =>
      have apart : c ≠ '(' := by
        rintro rfl
        exact other rest same
      simp [apart]

/-- Behind the type name the scan finds the parenthesis that reading finds. -/
theorem callBehindType_site {header afterType : Text} (site : Site)
    (split : site.ahead = header ++ afterType) :
    callBehindType site.text site.offset (site.offset + width header) =
      .ok ((parenBehindType? afterType).bind (Call.ofParen? site)) := by
  have behindGaps : site.ahead = header ++ afterType.takeWhile isGap ++ skipGaps afterType := by
    rw [List.append_assoc, takeWhile_append_skipGaps, split]
  simp only [callBehindType, shows_site site split narrow_of_continuesWord,
    skipWhitespace_site site split, holds_site site behindGaps utf8Size_openParen,
    callAt_site site behindGaps, parenBehindType?]
  by_cases longer : afterType.head?.any Call.continuesWord = true
  · simp [longer]
  by_cases opens : (skipGaps afterType).head?.any (· == '(') = true
  · simp [longer, opens]
  · simp [longer, opens]

/-- At an occurrence of `new` the scan reads the call that stands there. -/
theorem constructorAt_site {typeName rest : Text} (site : Site)
    (split : site.ahead = ['n', 'e', 'w'] ++ rest) :
    constructorAt typeName site.text site.offset = .ok (Call.at? typeName site) := by
  have behindGaps : site.ahead = ['n', 'e', 'w'] ++ rest.takeWhile isGap ++ skipGaps rest := by
    rw [List.append_assoc, takeWhile_append_skipGaps, split]
  have word : site.offset + 3 = site.offset + width ['n', 'e', 'w'] := rfl
  rw [constructorAt, follows_site narrow_of_continuesWord, ok_bind, Call.at?, header?_eq, split,
    after?_eq_some_iff.mpr rfl, Option.bind_some, skipGaps1?_eq, word,
    skipWhitespace_site site split]
  by_cases continues : site.behind.head?.any Call.continuesWord = true
  · simp [continues]
  by_cases adjacent : rest.takeWhile isGap = []
  · simp [continues, adjacent]
  have apart : ¬ site.offset + width (['n', 'e', 'w'] ++ rest.takeWhile isGap) =
      site.offset + width ['n', 'e', 'w'] := by
    obtain ⟨c, gaps, same⟩ := List.exists_cons_of_ne_nil adjacent
    have := c.utf8Size_pos
    rw [same, width_append, width_cons c]
    omega
  rw [if_neg continues, if_neg apart, if_neg continues, if_neg adjacent,
    sliceFrom_site site behindGaps, ok_bind, Option.bind_some]
  cases typed : after? typeName (skipGaps rest) with
  | none => rfl
  | some afterType =>
    have behindType : site.ahead =
        ['n', 'e', 'w'] ++ rest.takeWhile isGap ++ typeName ++ afterType := by
      rw [List.append_assoc _ typeName, ← after?_eq_some_iff.mp typed, behindGaps]
    have called := callBehindType_site site behindType
    rw [width_append, ← Nat.add_assoc] at called
    exact called

/-- Finding constructor calls by offsets never fails and finds the same calls. -/
theorem constructorCalls_returns (text typeName : Text) :
    constructorCalls text typeName = .ok (Source.constructorCalls text typeName) := by
  rw [constructorCalls, occurrences_of_unbordered unbordered_new]
  apply gather_filterMap
  · intro site member start found
    obtain ⟨⟨rest, split⟩, rfl⟩ := found?_eq_some_iff.mp found
    rw [← text_of_mem_sites member]
    exact constructorAt_site site split
  · intro site member missing
    rw [Call.at?, header?_eq, after?_of_found? missing]
    simp

theorem head?_constructorCalls (text typeName : Text) :
    (Source.constructorCalls text typeName).head? = findFirst? (Call.at? typeName) text :=
  List.head?_filterMap

theorem exists_append_of_header? {typeName paren : Text} {site : Site}
    (read : Call.header? typeName site = some paren) : ∃ header, site.ahead = header ++ paren := by
  rw [header?_eq] at read
  obtain ⟨-, read⟩ := Option.ite_none_left_eq_some.mp read
  obtain ⟨atType, gaps, read⟩ := Option.bind_eq_some_iff.mp read
  obtain ⟨afterNew, new, gaps⟩ := Option.bind_eq_some_iff.mp gaps
  obtain ⟨afterType, typed, read⟩ := Option.bind_eq_some_iff.mp read
  rw [skipGaps1?_eq] at gaps
  obtain ⟨-, gaps⟩ := Option.ite_none_left_eq_some.mp gaps
  obtain ⟨-, read⟩ := Option.ite_none_left_eq_some.mp read
  obtain ⟨-, read⟩ := Option.ite_none_right_eq_some.mp read
  cases read
  cases gaps
  refine ⟨['n', 'e', 'w'] ++ afterNew.takeWhile isGap ++ typeName ++ afterType.takeWhile isGap, ?_⟩
  simp only [List.append_assoc, takeWhile_append_skipGaps, ← after?_eq_some_iff.mp typed]
  exact after?_eq_some_iff.mp new

/-- A call and its arguments are parts of the text ahead of its place. -/
theorem isInfix_of_ofParen? {site : Site} {header paren : Text} {call : Call}
    (split : site.ahead = header ++ paren) (read : Call.ofParen? site paren = some call) :
    call.args <:+: call.text ∧ call.text <:+: site.ahead := by
  obtain ⟨⟨args, rest⟩, closed, same⟩ := Option.map_eq_some_iff.mp read
  cases same
  constructor
  · refine ⟨upTo site.ahead paren ++ ['('], [')'], ?_⟩
    simp
  · refine ⟨[], rest, ?_⟩
    rw [split, upTo_append, parenthesised?_eq_append closed]
    simp

theorem isInfix_of_at? {typeName : Text} {site : Site} {call : Call}
    (read : Call.at? typeName site = some call) :
    call.args <:+: call.text ∧ call.text <:+: site.text := by
  obtain ⟨paren, header, called⟩ := Option.bind_eq_some_iff.mp read
  obtain ⟨_, split⟩ := exists_append_of_header? header
  obtain ⟨args, whole⟩ := isInfix_of_ofParen? split called
  exact ⟨args, whole.trans (ahead_isInfix site)⟩

theorem isInfix_of_mem_constructorCalls {text typeName : Text} {call : Call}
    (member : call ∈ Source.constructorCalls text typeName) :
    call.args <:+: call.text ∧ call.text <:+: text := by
  obtain ⟨site, place, read⟩ := List.mem_filterMap.mp member
  rw [← text_of_mem_sites place]
  exact isInfix_of_at? read

end QuestRecords.Offsets
