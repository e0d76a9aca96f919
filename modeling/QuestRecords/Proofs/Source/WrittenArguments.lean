import QuestRecords.Proofs.Source.CutArguments
import QuestRecords.Proofs.Source.Identifiers
import QuestRecords.Proofs.Source.QuotedText
import QuestRecords.Source.ListLiteral

namespace QuestRecords.Source

open Text

/-- A text of closed literals and matching parentheses. Whether commas may stand outside of these
parentheses is told beside it; inside they may. -/
inductive Nested : Bool → Text → Prop where
  | nil : Nested commas []
  | quoted (text : Text) (rest : Nested commas more) : Nested commas (Literal.quote text ++ more)
  | plain (notQuote : Piece.isQuote c = false) (level : (Piece.plain c).nesting = 0)
      (parts : c = ',' → commas = true) (rest : Nested commas more) : Nested commas (c :: more)
  | enclosed (inside : Nested true text) (rest : Nested commas more) :
      Nested commas ('(' :: (text ++ ')' :: more))

def isFlat (c : Char) : Bool :=
  !Piece.isQuote c && decide ((Piece.plain c).nesting = 0) && c != ','

theorem Nested.flat {front : Text} (flat : front.all isFlat = true) (rest : Nested commas more) :
    Nested commas (front ++ more) := by
  induction front with
  | nil => exact rest
  | cons c front ih =>
    rw [List.all_cons, Bool.and_eq_true] at flat
    obtain ⟨first, others⟩ := flat
    simp only [isFlat, Bool.and_eq_true, Bool.not_eq_true', decide_eq_true_eq, bne_iff_ne,
      ne_eq] at first
    exact .plain first.1.1 first.1.2 (fun comma => absurd comma first.2) (ih others)

theorem Nested.of_flat {text : Text} (flat : text.all isFlat = true) : Nested commas text := by
  have whole : Nested commas (text ++ []) := .flat flat .nil
  rwa [List.append_nil] at whole

theorem Nested.append (first : Nested commas text) (later : Nested commas more) :
    Nested commas (text ++ more) := by
  induction first with
  | nil => exact later
  | quoted text _ ih =>
    rw [List.append_assoc]
    exact .quoted text (ih later)
  | plain notQuote level parts _ ih => exact .plain notQuote level parts (ih later)
  | enclosed inside _ _ ih =>
    rw [List.cons_append, List.append_assoc, List.cons_append]
    exact .enclosed inside (ih later)

theorem Nested.inside (nested : Nested commas text) : Nested true text := by
  induction nested with
  | nil => exact .nil
  | quoted text _ ih => exact .quoted text ih
  | plain notQuote level _ _ ih => exact .plain notQuote level (fun _ => rfl) ih
  | enclosed inside _ _ ih => exact .enclosed inside ih

def closeText? (depth : Nat) (text : Text) : Option (Text × Text) :=
  (Piece.close? depth text).map fun (inside, after) => (Piece.join inside, after)

section

variable {text more : Text} {piece : Piece}

theorem closeText?_of_next? (read : Piece.next? text = some (piece, more))
    (notOpen : piece ≠ .plain '(') (notClose : piece ≠ .plain ')') (depth : Nat) :
    closeText? depth text = (closeText? depth more).map fun (inside, after) =>
      (piece.text ++ inside, after) := by
  rw [closeText?, Piece.close?_of_next? read, if_neg notClose, if_neg notOpen, closeText?,
    Option.map_map, Option.map_map]
  rfl

theorem closeText?_open (depth : Nat) :
    closeText? depth ('(' :: more) = (closeText? (depth + 1) more).map fun (inside, after) =>
      ('(' :: inside, after) := by
  have read : Piece.next? ('(' :: more) = some (.plain '(', more) := rfl
  rw [closeText?, Piece.close?_of_next? read, if_neg (by decide), if_pos rfl, closeText?,
    Option.map_map, Option.map_map]
  rfl

theorem closeText?_close (depth : Nat) :
    closeText? (depth + 1) (')' :: more) = (closeText? depth more).map fun (inside, after) =>
      (')' :: inside, after) := by
  have read : Piece.next? (')' :: more) = some (.plain ')', more) := rfl
  rw [closeText?, Piece.close?_of_next? read, if_pos rfl, closeText?]
  simp only [Option.map_map]
  rfl

theorem closeText?_end : closeText? 0 (')' :: more) = some ([], more) := by
  have read : Piece.next? (')' :: more) = some (.plain ')', more) := rfl
  rw [closeText?, Piece.close?_of_next? read, if_pos rfl]
  rfl

/-- Text in which parentheses match is passed over in the search for a closing one. -/
theorem Nested.closeText?_append (nested : Nested commas text) (depth : Nat) (more : Text) :
    closeText? depth (text ++ more) = (closeText? depth more).map fun (inside, after) =>
      (text ++ inside, after) := by
  induction nested generalizing depth more with
  | nil => simp
  | @quoted _ others text _ ih =>
    have read : Piece.next? (Literal.quote text ++ (others ++ more)) =
        some (.quoted (Literal.quote text), others ++ more) := Literal.proper_quote text _
    rw [List.append_assoc, closeText?_of_next? read (by simp) (by simp), ih, Option.map_map]
    simp [Function.comp_def, Piece.text]
  | @plain c _ others notQuote level _ _ ih =>
    have read : Piece.next? (c :: (others ++ more)) = some (.plain c, others ++ more) :=
      Piece.proper_plain notQuote _
    have notOpen : Piece.plain c ≠ .plain '(' := by
      rintro ⟨⟩
      exact absurd level (by decide)
    have notClose : Piece.plain c ≠ .plain ')' := by
      rintro ⟨⟩
      exact absurd level (by decide)
    rw [List.cons_append, closeText?_of_next? read notOpen notClose, ih, Option.map_map]
    simp [Function.comp_def, Piece.text]
  | enclosed _ _ first later =>
    rw [List.cons_append, List.append_assoc, List.cons_append, closeText?_open, first,
      closeText?_close, later]
    simp [Function.comp_def]

theorem Nested.parenthesised?_eq (nested : Nested commas text) (after : Text) :
    parenthesised? ('(' :: (text ++ ')' :: after)) = some (text, after) := by
  have read : parenthesised? ('(' :: (text ++ ')' :: after)) =
      closeText? 0 (text ++ ')' :: after) := rfl
  rw [read, nested.closeText?_append, closeText?_end]
  simp

end

/-- Text in which commas stand inside of parentheses only closes what it opens, and no comma in it
separates. -/
theorem Nested.level (nested : Nested commas text) {depth : Int} (low : 0 ≤ depth)
    (deep : commas = true → 0 < depth) : Level depth text := by
  induction nested generalizing depth with
  | nil => exact .nil
  | quoted text _ ih =>
    exact (Level.of_piece (Literal.proper_quote text) rfl (by simp)).append (ih low deep)
  | @plain c _ _ notQuote even parts _ ih =>
    have notCut : ¬ (Piece.plain c = .plain ',' ∧ depth = 0) := by
      rintro ⟨same, rfl⟩
      exact absurd (deep (parts (Piece.plain.inj same))) (Int.lt_irrefl 0)
    exact (Level.of_piece (Piece.proper_plain notQuote) even notCut).append (ih low deep)
  | @enclosed inside _ others _ _ first later =>
    -- The commas of the inside stand below the parenthesis, where the depth is positive.
    have within : Level (depth + 1) inside := first (by omega) (fun _ => by omega)
    have split : '(' :: (inside ++ ')' :: others) = '(' :: (inside ++ [')']) ++ others := by simp
    rw [split]
    exact within.enclosed.append (later low deep)

theorem trim_eq_self {c d : Char} {rest front text : Text} (first : text = c :: rest)
    (solidFirst : isBlank c = false) (last : text = front ++ [d]) (solidLast : isBlank d = false) :
    trim text = text := by
  have start : trimStart text = text := by
    rw [trimStart, skipBlanks, first, List.dropWhile_cons_of_neg (by simp [solidFirst])]
  rw [trim, start, trimEnd, last, List.reverse_concat,
    List.dropWhile_cons_of_neg (by simp [solidLast]), ← List.reverse_concat, List.reverse_reverse]

/-- A text that stands as one argument: no comma cuts it, and no blank begins or ends it. -/
structure SoleArgument (text : Text) : Prop where
  nested : Nested false text
  first : ∃ c rest, text = c :: rest ∧ isBlank c = false
  last : ∃ front d, text = front ++ [d] ∧ isBlank d = false

namespace SoleArgument

theorem trim_eq (sole : SoleArgument text) : trim text = text := by
  obtain ⟨c, rest, first, solidFirst⟩ := sole.first
  obtain ⟨front, d, last, solidLast⟩ := sole.last
  exact trim_eq_self first solidFirst last solidLast

theorem selfContained (sole : SoleArgument text) : SelfContained text :=
  sole.nested.level (Int.le_refl 0) (by simp)

theorem ne_nil (sole : SoleArgument text) : text ≠ [] := by
  obtain ⟨c, rest, rfl, -⟩ := sole.first
  exact List.cons_ne_nil c rest

theorem of_solid (filled : text ≠ []) (flat : text.all isFlat = true)
    (solid : ∀ c ∈ text, isBlank c = false) : SoleArgument text := by
  obtain ⟨c, rest, rfl⟩ := List.exists_cons_of_ne_nil filled
  refine ⟨.of_flat flat, ⟨c, rest, rfl, solid c List.mem_cons_self⟩, ?_⟩
  obtain ⟨front, d, last⟩ := (List.eq_nil_or_concat (c :: rest)).resolve_left filled
  rw [List.concat_eq_append] at last
  exact ⟨front, d, last, solid d (by simp [last])⟩

theorem of_identifier (identifier : Identifier) : SoleArgument identifier.text := by
  obtain ⟨c, rest, same, -⟩ := identifier.exists_cons
  apply of_solid (by simp [same])
  · apply List.all_eq_true.mpr
    intro d member
    exact test_of_isIdentifierPart isFlat (by decide) (identifier.part_of_mem d member)
  · intro d member
    exact isBlank_of_isIdentifierPart (identifier.part_of_mem d member)

theorem of_quote (text : Text) : SoleArgument (Literal.quote text) where
  nested := by
    have whole : Nested false (Literal.quote text ++ []) := .quoted text .nil
    rwa [List.append_nil] at whole
  first := ⟨'"', _, rfl, by decide⟩
  last := ⟨'"' :: text.flatMap Literal.escaped, '"', rfl, by decide⟩

end SoleArgument

/-- Texts with a comma and a space between each two. -/
def commaSeparated (items : List Text) : Text := [',', ' '].intercalate items

theorem nested_commaSeparated {items : List Text} (sole : ∀ item ∈ items, SoleArgument item) :
    Nested true (commaSeparated items) := by
  induction items with
  | nil => exact .nil
  | cons first others ih =>
    obtain ⟨one, rest⟩ := List.forall_mem_cons.mp sole
    cases others with
    | nil =>
      rw [commaSeparated, List.intercalate_singleton]
      exact one.nested.inside
    | cons next others =>
      have comma : Nested true [',', ' '] :=
        .plain rfl rfl (fun _ => rfl) (.plain rfl rfl (fun _ => rfl) .nil)
      rw [commaSeparated, List.intercalate_cons_cons]
      exact (one.nested.inside.append comma).append (ih rest)

/-- The space between two arguments stands before the second. -/
theorem commaSeparated_cons (first : Text) (others : List Text) :
    commaSeparated (first :: others) = [','].intercalate (first :: others.map (' ' :: ·)) := by
  induction others generalizing first with
  | nil => rfl
  | cons next others ih =>
    have spaced (rest : List Text) : [','].intercalate ((' ' :: next) :: rest) =
        ' ' :: [','].intercalate (next :: rest) := by
      cases rest with
      | nil => rfl
      | cons other rest => rw [List.intercalate_cons_cons, List.intercalate_cons_cons]; rfl
    rw [commaSeparated, List.intercalate_cons_cons, ← commaSeparated, ih next, List.map_cons,
      List.intercalate_cons_cons, spaced]
    simp

/-- Arguments are cut as they were written. -/
theorem splitArguments_commaSeparated {items : List Text}
    (sole : ∀ item ∈ items, SoleArgument item) : splitArguments (commaSeparated items) = items := by
  cases items with
  | nil => exact splitArguments_eq_nil_iff.mpr (List.forall_mem_nil _)
  | cons first others =>
    have filled : first :: others ≠ [[]] := by
      intro none
      exact (sole first List.mem_cons_self).ne_nil (List.cons.inj none).1
    have spaced (item : Text) : Padded item (' ' :: item) := by
      refine ⟨[' '], [], ?_, List.forall_mem_nil _, by simp⟩
      exact List.forall_mem_singleton.mpr (by decide)
    have alone : Padded first first := ⟨[], [], List.forall_mem_nil _, List.forall_mem_nil _, by simp⟩
    rw [commaSeparated_cons]
    apply splitArguments_of_padded (List.cons_ne_nil first others) filled
    · intro item member
      exact ⟨(sole item member).trim_eq, (sole item member).selfContained⟩
    · refine .cons alone (List.forall₂_map_right_iff.mpr (List.forall₂_same.mpr ?_))
      intro item _
      exact spaced item

theorem sole_of_mem_identifiers (identifiers : List Identifier) :
    ∀ item ∈ identifiers.map Identifier.text, SoleArgument item := by
  intro item member
  obtain ⟨identifier, -, rfl⟩ := List.mem_map.mp member
  exact .of_identifier identifier

/-- The identifiers among written identifiers are all of them. -/
theorem identifiersIn_commaSeparated (identifiers : List Identifier) :
    identifiersIn (commaSeparated (identifiers.map Identifier.text)) =
      identifiers.map Identifier.text := by
  rw [identifiersIn, splitArguments_commaSeparated (sole_of_mem_identifiers _), List.filter_eq_self]
  intro item member
  obtain ⟨identifier, -, rfl⟩ := List.mem_map.mp member
  exact identifier.valid

theorem not_mem_commaSeparated {items : List Text} {c : Char} (absent : ∀ item ∈ items, c ∉ item)
    (comma : c ≠ ',') (space : c ≠ ' ') : c ∉ commaSeparated items := by
  induction items with
  | nil => simp [commaSeparated]
  | cons item items ih =>
    obtain ⟨first, others⟩ := List.forall_mem_cons.mp absent
    cases items with
    | nil => simpa [commaSeparated] using first
    | cons next items =>
      rw [commaSeparated, List.intercalate_cons_cons]
      have rest := ih others
      rw [commaSeparated] at rest
      simp [first, comma, space, rest]

theorem not_mem_identifiers (identifiers : List Identifier) {c : Char}
    (part : isIdentifierPart c = false) (comma : c ≠ ',') (space : c ≠ ' ') :
    c ∉ commaSeparated (identifiers.map Identifier.text) := by
  apply not_mem_commaSeparated _ comma space
  intro item member
  obtain ⟨identifier, -, rfl⟩ := List.mem_map.mp member
  exact identifier.not_mem part

def callSource (head : Text) (items : List Text) : Text :=
  head ++ '(' :: (commaSeparated items ++ [')'])

theorem callSource_append (head : Text) (items : List Text) (after : Text) :
    callSource head items ++ after = head ++ '(' :: (commaSeparated items ++ ')' :: after) := by
  simp [callSource]

theorem not_mem_callSource {head : Text} {items : List Text} {c : Char} (named : c ∉ head)
    (listed : c ∉ commaSeparated items) (opening : c ≠ '(') (closing : c ≠ ')') :
    c ∉ callSource head items := by
  simp [callSource, named, listed, opening, closing]

/-- A written call stands as one argument. -/
theorem SoleArgument.of_call {head : Text} {items : List Text} (flat : head.all isFlat = true)
    (first : ∃ c rest, head = c :: rest ∧ isBlank c = false)
    (sole : ∀ item ∈ items, SoleArgument item) : SoleArgument (callSource head items) where
  nested := .flat flat (.enclosed (nested_commaSeparated sole) .nil)
  first := by
    obtain ⟨c, rest, rfl, solid⟩ := first
    exact ⟨c, _, rfl, solid⟩
  last := ⟨head ++ '(' :: commaSeparated items, ')', by simp [callSource], by decide⟩

def listSource (items : List Identifier) : Text :=
  callSource "Arrays.asList".toList (items.map Identifier.text)

theorem sole_listSource (items : List Identifier) : SoleArgument (listSource items) :=
  .of_call (by decide +kernel) ⟨'A', _, rfl, by decide⟩ (sole_of_mem_identifiers items)

theorem not_mem_listSource (items : List Identifier) {c : Char}
    (absent : c ∉ "Arrays.asList(, )".toList) (part : isIdentifierPart c = false) :
    c ∉ listSource items := by
  have listed := not_mem_identifiers items part (by simp_all) (by simp_all)
  exact not_mem_callSource (by simp_all) listed (by simp_all) (by simp_all)

end QuestRecords.Source
