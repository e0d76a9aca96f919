import QuestRecords.Proofs.Source.FoundCalls
import QuestRecords.Proofs.Source.Readings

namespace QuestRecords

namespace Text

variable {α β : Type}

/-- A search that reads at each place of a stretch what another one reads there, but for a change to
what is found. -/
theorem foundIn_eq_map {read : Site → Option β} {other : Site → Option α} {change : α → β}
    {behind behind' stretch tail tail' : Text}
    (same : ∀ before c after, stretch = before ++ c :: after →
      read ⟨before.reverse ++ behind, c :: (after ++ tail)⟩ =
        (other ⟨before.reverse ++ behind', c :: (after ++ tail')⟩).map change) :
    foundIn read behind stretch tail = (foundIn other behind' stretch tail').map change := by
  induction stretch generalizing behind behind' with
  | nil => rfl
  | cons c stretch ih =>
    have first := same [] c stretch rfl
    have others : foundIn read (c :: behind) stretch tail =
        (foundIn other (c :: behind') stretch tail').map change := ih fun before d after split => by
      simpa using same (c :: before) d after (by rw [split, List.cons_append])
    rw [List.reverse_nil, List.nil_append, List.nil_append] at first
    rw [foundIn, foundIn, first, others, List.map_append]
    cases other ⟨behind', c :: (stretch ++ tail')⟩ <;> rfl

section

variable {d : Char}

/-- A word that a divider does not occur in is read up to the divider or not at all. -/
theorem after?_divided {word : Text} (absent : d ∉ word) (text tail : Text) :
    after? word (text ++ d :: tail) = (after? word text).map (· ++ d :: tail) := by
  induction word generalizing text with
  | nil => rfl
  | cons expected word ih =>
    obtain ⟨apart, absent⟩ := not_or.mp (mt List.mem_cons.mpr absent)
    cases text with
    | nil => rw [List.nil_append, after?, Option.map_none, after?, if_neg apart]
    | cons c text =>
      by_cases same : c = expected
      · rw [List.cons_append, after?, if_pos same, after?, if_pos same, ih absent]
      · rw [List.cons_append, after?, if_neg same, after?, if_neg same, Option.map_none]

theorem dropWhile_divided {test : Char → Bool} (stops : test d = false) (text tail : Text) :
    (text ++ d :: tail).dropWhile test = text.dropWhile test ++ d :: tail := by
  have divider : (d :: tail).dropWhile test = d :: tail :=
    List.dropWhile_cons_of_neg (by simp [stops])
  rw [List.dropWhile_append, divider]
  split
  · rename_i empty
    rw [List.isEmpty_iff.mp empty, List.nil_append]
  · rfl

theorem skipGaps1?_divided (solid : isGap d = false) (text tail : Text) :
    skipGaps1? (text ++ d :: tail) = (skipGaps1? text).map (· ++ d :: tail) := by
  cases text with
  | nil => simp [skipGaps1?, solid]
  | cons c text =>
    rw [List.cons_append, skipGaps1?, skipGaps1?, skipGaps, dropWhile_divided solid]
    split <;> rfl

end

end Text

namespace Source

open Text

/-- A text in which every call of a type that begins is closed. -/
def ClosesCalls (typeName text : Text) : Prop :=
  ∀ head : CallHead typeName, head.text = text →
    ∃ close pieces, ClosedBy text head.openParen close pieces

namespace Call

def shifted (distance : Nat) (call : Call) : Call :=
  { call with
    start := call.start + distance
    stop := call.stop + distance
    argsStart := call.argsStart + distance }

variable {typeName : Text}

/-- Whether a call begins at a place shows before the next semicolon. -/
theorem header?_divided (absent : ';' ∉ typeName) (behind ahead tail : Text) :
    header? typeName ⟨behind, ahead ++ ';' :: tail⟩ =
      (header? typeName ⟨behind, ahead⟩).map (· ++ ';' :: tail) := by
  have opened : ∀ text : Text, Offsets.parenBehindType? (text ++ ';' :: tail) =
      (Offsets.parenBehindType? text).map (· ++ ';' :: tail) := by
    intro text
    have gaps : skipGaps (text ++ ';' :: tail) = skipGaps text ++ ';' :: tail :=
      dropWhile_divided (by decide) text tail
    have longer : (text ++ ';' :: tail).head?.any continuesWord = text.head?.any continuesWord := by
      cases text <;> rfl
    have opens : (skipGaps text ++ ';' :: tail).head?.any (· == '(') =
        (skipGaps text).head?.any (· == '(') := by
      cases skipGaps text <;> rfl
    rw [Offsets.parenBehindType?, Offsets.parenBehindType?, gaps, longer, opens]
    split
    · rfl
    · split <;> rfl
  rw [Offsets.header?_eq, Offsets.header?_eq, after?_divided (by decide)]
  split
  · rfl
  · cases after? ['n', 'e', 'w'] ahead with
    | none => rfl
    | some afterNew =>
      rw [Option.map_some, Option.bind_some, Option.bind_some, skipGaps1?_divided (by decide)]
      cases skipGaps1? afterNew with
      | none => rfl
      | some atType =>
        rw [Option.map_some, Option.bind_some, Option.bind_some, after?_divided absent]
        cases after? typeName atType with
        | none => rfl
        | some afterType => exact opened afterType

/-- What is read in parentheses does not depend on what follows them. -/
theorem parenthesised?_append {text args rest : Text}
    (read : parenthesised? text = some (args, rest)) (more : Text) :
    parenthesised? (text ++ more) = some (args, rest ++ more) := by
  obtain ⟨inside, rfl, rfl, grammar⟩ := parenthesised?_eq_some_iff.mp read
  exact parenthesised?_eq_some_iff.mpr ⟨inside, rfl, by simp, grammar⟩

/-- A call that is closed in its text is the same call in a longer one. -/
theorem ofParen?_append {behind header paren : Text}
    (closed : (parenthesised? paren).isSome = true) (more : Text) :
    ofParen? ⟨behind, header ++ paren ++ more⟩ (paren ++ more) =
      ofParen? ⟨behind, header ++ paren⟩ paren := by
  obtain ⟨⟨args, rest⟩, read⟩ := Option.isSome_iff_exists.mp closed
  rw [ofParen?, ofParen?, parenthesised?_append read, read, List.append_assoc, upTo_append,
    upTo_append]
  rfl

theorem at?_behind (behind before ahead : Text) :
    at? typeName ⟨behind ++ ';' :: before, ahead⟩ =
      (at? typeName ⟨behind, ahead⟩).map (shifted (width before + 1)) := by
  have neighbour : (behind ++ ';' :: before).head?.any continuesWord =
      behind.head?.any continuesWord := by
    cases behind <;> rfl
  have header : header? typeName ⟨behind ++ ';' :: before, ahead⟩ =
      header? typeName ⟨behind, ahead⟩ := by
    rw [Offsets.header?_eq, Offsets.header?_eq, neighbour]
  have offset : width (behind ++ ';' :: before) = width behind + (width before + 1) := by
    rw [width_append, width_cons, Nat.add_comm (width before)]
    rfl
  have called : ∀ paren, ofParen? ⟨behind ++ ';' :: before, ahead⟩ paren =
      (ofParen? ⟨behind, ahead⟩ paren).map (shifted (width before + 1)) := by
    intro paren
    rw [ofParen?, ofParen?, Option.map_map]
    congr 1
    funext parts
    obtain ⟨args, rest⟩ := parts
    simp only [Site.offset, offset, shifted, Function.comp_apply, mk.injEq, true_and, and_true]
    omega
  rw [at?, at?, header, Option.map_bind]
  congr 1
  funext paren
  exact called paren

end Call

/-- A call that begins in a text that closes its calls is closed behind its header. -/
theorem ClosesCalls.parenthesised {typeName text paren : Text} {site : Site}
    (closes : ClosesCalls typeName text) (place : site.text = text)
    (header : Call.header? typeName site = some paren) : (parenthesised? paren).isSome = true := by
  obtain ⟨head, rfl, rfl⟩ := exists_head_of_header? header
  have whole : head.text = text := by rw [← place, head.site_text]
  obtain ⟨close, closed⟩ := closes head whole
  have matched := exists_closedBy_iff.mp closed
  rw [← place, head.openParen_eq, matchingParen?_site rfl] at matched
  exact Option.isSome_of_eq_some ((Option.map_eq_some_iff.mp matched).choose_spec.1)

/-- Whether a text closes its calls can be checked place by place. -/
theorem closesCalls_iff {typeName text : Text}
    (solid : ∃ c, typeName.head? = some c ∧ isGap c = false) :
    ClosesCalls typeName text ↔ ((sites text).all fun site =>
      (Call.header? typeName site).all fun paren => (parenthesised? paren).isSome) = true := by
  simp only [List.all_eq_true, Option.all_eq_true]
  constructor
  · intro closes site place paren header
    exact closes.parenthesised (Offsets.text_of_mem_sites place) header
  · rintro checked head rfl
    have place : head.site ∈ sites head.text := by
      apply (mem_sites_iff head.site head.text).mpr
      exact ⟨head.site_text, List.append_ne_nil_of_right_ne_nil _ (List.cons_ne_nil _ _)⟩
    have closed := checked head.site place _ (head.header?_eq solid)
    have matched : (matchingParen? head.text head.openParen).isSome = true := by
      rw [← head.site_text, head.openParen_eq, matchingParen?_site rfl, Option.isSome_map, closed]
    obtain ⟨close, found⟩ := Option.isSome_iff_exists.mp matched
    exact ⟨close, exists_closedBy_iff.mpr found⟩

/-- The calls of a text of two statements: those of the first, and then those of the second, as far on
as its text stands behind the first one and the semicolon. -/
theorem constructorCalls_sequence {typeName first : Text} (absent : ';' ∉ typeName)
    (closes : ClosesCalls typeName first) (later : Text) :
    constructorCalls (first ++ ';' :: later) typeName =
      constructorCalls first typeName ++
        (constructorCalls later typeName).map (Call.shifted (width first + 1)) := by
  have front : foundIn (Call.at? typeName) [] first (';' :: later) =
      foundIn (Call.at? typeName) [] first [] := by
    rw [← List.map_id (foundIn (Call.at? typeName) [] first [])]
    apply foundIn_eq_map
    intro before c after split
    rw [List.append_nil, List.append_nil, Option.map_id, id_eq, Call.at?, Call.at?,
      ← List.cons_append, Call.header?_divided absent]
    cases read : Call.header? typeName ⟨before.reverse, c :: after⟩ with
    | none => rfl
    | some paren =>
      have whole : Site.text ⟨before.reverse, c :: after⟩ = first := by
        rw [Site.text, List.reverse_reverse, split]
      obtain ⟨header, ahead⟩ := Offsets.exists_append_of_header? read
      have ahead : c :: after = header ++ paren := ahead
      rw [Option.map_some, Option.bind_some, Option.bind_some, ahead,
        Call.ofParen?_append (closes.parenthesised whole read)]
  have back : foundIn (Call.at? typeName) (';' :: first.reverse) later [] =
      (foundIn (Call.at? typeName) [] later []).map (Call.shifted (width first + 1)) := by
    apply foundIn_eq_map
    intro before c after _
    rw [List.append_nil, List.append_nil, Call.at?_behind, width_reverse]
  have divider : Call.at? typeName ⟨first.reverse, ';' :: later⟩ = none :=
    Call.at?_of_head (by decide) later
  rw [constructorCalls, constructorCalls, constructorCalls, findAll_eq_foundIn, findAll_eq_foundIn,
    findAll_eq_foundIn, foundIn_append, List.append_nil, List.append_nil, front, foundIn,
    List.append_nil, divider, Option.toList_none, List.nil_append, back]

end Source
end QuestRecords
