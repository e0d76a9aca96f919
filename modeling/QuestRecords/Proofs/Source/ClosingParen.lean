import Mathlib.Data.List.Induction
import QuestRecords.Proofs.Offsets.Brackets
import QuestRecords.Proofs.Source.Pieces

/-! Where an opening parenthesis is closed. A text is read as complete quoted literals and single
other characters; the closing parenthesis is the first of these pieces at which as many parentheses
have closed as opened. That depends on nothing but the pieces up to there. -/
namespace QuestRecords.Source

open Text

namespace Piece

/-- What stands between two equal quotes: characters other than the quote and the backslash, and
pairs of a backslash and any character. -/
inductive Within (quote : Char) : Text → Prop where
  | nil : Within quote []
  | plain (notQuote : c ≠ quote) (notEscape : c ≠ '\\') (rest : Within quote raw) :
      Within quote (c :: raw)
  | escaped (rest : Within quote raw) : Within quote ('\\' :: c :: raw)

/-- A complete literal between two quotes of one kind, or a single character that is no quote. -/
inductive Whole : Piece → Prop where
  | quoted (isQuote : isQuote quote = true) (inside : Within quote raw) :
      Whole (.quoted (quote :: (raw ++ [quote])))
  | plain (notQuote : isQuote c = false) : Whole (.plain c)

theorem within_of_quotedTail? {quote : Char} {text raw after : Text}
    (read : quotedTail? quote text = some (raw, after)) :
    ∃ inner, Within quote inner ∧ raw = inner ++ [quote] := by
  fun_induction quotedTail? quote text generalizing raw after with
  | case1 => cases read
  | case2 c rest ih =>
    obtain ⟨⟨raw, after⟩, found, same⟩ := Option.map_eq_some_iff.mp read
    cases same
    obtain ⟨inner, within, rfl⟩ := ih found
    exact ⟨'\\' :: c :: inner, .escaped within, rfl⟩
  | case3 rest =>
    cases read
    exact ⟨[], .nil, rfl⟩
  | case4 c rest noPair other ih =>
    obtain ⟨⟨raw, after⟩, found, same⟩ := Option.map_eq_some_iff.mp read
    cases same
    obtain ⟨inner, within, rfl⟩ := ih found
    have notEscape : c ≠ '\\' := by
      rintro rfl
      cases rest with
      | nil => cases found
      | cons d rest => exact noPair d rest rfl rfl
    exact ⟨c :: inner, .plain other notEscape within, rfl⟩

theorem Within.quotedTail?_append {quote : Char} {inner : Text} (within : Within quote inner)
    (notEscape : quote ≠ '\\') (after : Text) :
    quotedTail? quote (inner ++ quote :: after) = some (inner ++ [quote], after) := by
  induction within with
  | nil =>
    rw [List.nil_append, quotedTail?, if_pos rfl]
    · rfl
    · intro _ _ escape
      exact absurd escape notEscape
  | @plain c raw other notEscape' _ ih =>
    rw [List.cons_append, quotedTail?, if_neg other, ih]
    · rfl
    · intro _ _ escape
      exact absurd escape notEscape'
  | escaped _ ih =>
    rw [List.cons_append, List.cons_append, quotedTail?, ih]
    rfl

theorem Whole.proper {piece : Piece} (whole : Whole piece) : Proper piece := by
  cases whole with
  | quoted isQuote within =>
    exact proper_quoted isQuote (within.quotedTail?_append (isQuote_ne_escape isQuote) [])
  | plain notQuote => exact proper_plain notQuote

theorem whole_of_next? {text rest : Text} {piece : Piece}
    (read : next? text = some (piece, rest)) : Whole piece := by
  cases text with
  | nil => cases read
  | cons c tail =>
    rw [next?] at read
    split at read
    · rename_i isQuote
      obtain ⟨⟨raw, after⟩, found, same⟩ := Option.map_eq_some_iff.mp read
      cases same
      obtain ⟨inner, within, rfl⟩ := within_of_quotedTail? found
      exact .quoted isQuote within
    · rename_i notQuote
      cases read
      exact .plain (Bool.eq_false_iff.mpr notQuote)

/-- What a reader takes for a piece is exactly what is whole. -/
theorem proper_iff_whole {piece : Piece} : Proper piece ↔ Whole piece :=
  ⟨fun proper => whole_of_next? (proper []), Whole.proper⟩

/-- A list of pieces in which `depth` more parentheses close than open, as in none of its
beginnings. -/
structure ClosesFirst (depth : Nat) (pieces : List Piece) : Prop where
  even : pieces.count (plain ')') = pieces.count (plain '(') + depth
  first : ∀ front, front <+: pieces →
    front.count (plain ')') = front.count (plain '(') + depth → front = pieces

/-- Pieces in which parentheses are balanced: as many close as open, and on the way never more. -/
structure Balanced (pieces : List Piece) : Prop where
  even : pieces.count (plain ')') = pieces.count (plain '(')
  ordered : ∀ front, front <+: pieces → front.count (plain ')') ≤ front.count (plain '(')

namespace ClosesFirst

variable {depth : Nat} {piece : Piece} {pieces : List Piece}

/-- The counts of a list behind its first piece. -/
theorem cons_iff {next : Nat} (positive : depth ≠ 0)
    (counted : (if piece = plain '(' then 1 else 0) + depth =
      (if piece = plain ')' then 1 else 0) + next) :
    ClosesFirst depth (piece :: pieces) ↔ ClosesFirst next pieces := by
  constructor
  · intro closes
    constructor
    · have even := closes.even
      simp only [List.count_cons, beq_iff_eq] at even
      omega
    · intro front begins even
      have first := closes.first (piece :: front) (List.cons_prefix_cons.mpr ⟨rfl, begins⟩)
      simp only [List.count_cons, beq_iff_eq] at first
      exact (List.cons.inj (first (by omega))).2
  · intro closes
    constructor
    · have even := closes.even
      simp only [List.count_cons, beq_iff_eq]
      omega
    · intro front begins even
      rcases List.prefix_cons_iff.mp begins with rfl | ⟨front, rfl, later⟩
      · exact absurd (Nat.zero_add depth ▸ even.symm) positive
      · simp only [List.count_cons, beq_iff_eq] at even
        rw [closes.first front later (by omega)]

theorem opening_iff : ClosesFirst (depth + 1) (plain '(' :: pieces) ↔
    ClosesFirst (depth + 2) pieces := by
  apply cons_iff (Nat.succ_ne_zero depth)
  rw [if_pos rfl, if_neg (by decide)]
  omega

theorem closing_iff : ClosesFirst (depth + 2) (plain ')' :: pieces) ↔
    ClosesFirst (depth + 1) pieces := by
  apply cons_iff (Nat.succ_ne_zero (depth + 1))
  rw [if_pos rfl, if_neg (by decide)]
  omega

theorem other_iff (notOpen : piece ≠ plain '(') (notClose : piece ≠ plain ')') :
    ClosesFirst (depth + 1) (piece :: pieces) ↔ ClosesFirst (depth + 1) pieces := by
  apply cons_iff (Nat.succ_ne_zero depth)
  rw [if_neg notOpen, if_neg notClose]

theorem last_iff : ClosesFirst 1 (plain ')' :: pieces) ↔ pieces = [] := by
  constructor
  · intro closes
    have sole := closes.first [plain ')'] (List.prefix_append [plain ')'] pieces) (by decide)
    exact (List.cons.inj sole).2.symm
  · rintro rfl
    refine ⟨by decide, ?_⟩
    intro front begins even
    rcases List.prefix_cons_iff.mp begins with rfl | ⟨front, rfl, later⟩
    · exact absurd even (by decide)
    · rw [List.prefix_nil.mp later]

/-- No beginning has more than its share of closing parentheses: with one piece more, it would have
one too many at the most, and that happens at the end only. -/
theorem bounded (closes : ClosesFirst (depth + 1) pieces) {front : List Piece}
    (begins : front <+: pieces) (short : front ≠ pieces) :
    front.count (plain ')') ≤ front.count (plain '(') + depth := by
  induction front using List.reverseRecOn with
  | nil => exact Nat.zero_le _
  | append_singleton front piece ih =>
    have shorter : front ≠ pieces := by
      rintro rfl
      exact absurd begins.length_le (by simp)
    have below := ih ((List.prefix_append front [piece]).trans begins) shorter
    have single : [piece].count (plain ')') ≤ 1 := List.count_le_length
    have uneven := mt (closes.first (front ++ [piece]) begins) short
    rw [List.count_append, List.count_append] at uneven ⊢
    omega

/-- The last of the pieces is the closing parenthesis. -/
theorem exists_concat (closes : ClosesFirst (depth + 1) pieces) :
    ∃ inside, pieces = inside ++ [plain ')'] := by
  rcases List.eq_nil_or_concat pieces with rfl | ⟨inside, last, same⟩
  · exact absurd closes.even (by simp)
  · rw [List.concat_eq_append] at same
    subst same
    have below := closes.bounded (List.prefix_append inside [last]) (by simp)
    have even := closes.even
    rw [List.count_append, List.count_append] at even
    have positive : 0 < [last].count (plain ')') := by omega
    rw [List.mem_singleton.mp (List.count_pos_iff.mp positive)]
    exact ⟨inside, rfl⟩

/-- Before the last parenthesis, all others are balanced. -/
theorem balanced (closes : ClosesFirst 1 (pieces ++ [plain ')'])) : Balanced pieces := by
  constructor
  · simpa using closes.even
  · intro front begins
    apply closes.bounded (begins.trans (List.prefix_append pieces [plain ')']))
    rintro rfl
    exact absurd begins.length_le (by simp)

end ClosesFirst

/-- Pieces that end at the first parenthesis at which as many have closed as opened. -/
structure FirstEven (pieces : List Piece) : Prop where
  even : pieces.count (plain ')') = pieces.count (plain '(')
  first : ∀ front, front <+: pieces → front ≠ [] →
    front.count (plain ')') = front.count (plain '(') → front = pieces

theorem firstEven_open_iff {pieces : List Piece} :
    FirstEven (plain '(' :: pieces) ↔ ClosesFirst 1 pieces := by
  have opens : plain '(' ≠ plain ')' := by decide
  constructor
  · intro closes
    constructor
    · have even := closes.even
      rwa [List.count_cons_of_ne opens, List.count_cons_self] at even
    · intro front begins even
      have first := closes.first (plain '(' :: front) (List.cons_prefix_cons.mpr ⟨rfl, begins⟩)
        (List.cons_ne_nil _ front)
      rw [List.count_cons_of_ne opens, List.count_cons_self] at first
      exact (List.cons.inj (first even)).2
  · intro closes
    constructor
    · rw [List.count_cons_of_ne opens, List.count_cons_self]
      exact closes.even
    · intro front begins filled even
      obtain ⟨front, rfl, later⟩ := (List.prefix_cons_iff.mp begins).resolve_left filled
      rw [List.count_cons_of_ne opens, List.count_cons_self] at even
      rw [closes.first front later even]

theorem close?_append {inside : List Piece} (proper : ∀ piece ∈ inside, Proper piece)
    {depth : Nat} (closes : ClosesFirst (depth + 1) (inside ++ [plain ')'])) (after : Text) :
    close? depth (join inside ++ ')' :: after) = some (inside, after) := by
  induction inside generalizing depth with
  | nil =>
    have read : next? (')' :: after) = some (plain ')', after) := rfl
    have level : depth = 0 := (Nat.succ_inj.mp ((Nat.zero_add _).symm.trans closes.even.symm))
    rw [join_nil, List.nil_append, close?_of_next? read, if_pos rfl, level]
  | cons piece inside ih =>
    obtain ⟨first, others⟩ := List.forall_mem_cons.mp proper
    rw [List.cons_append] at closes
    rw [join_cons, List.append_assoc, close?_of_next? (first _)]
    by_cases isClose : piece = plain ')'
    · subst isClose
      rw [if_pos rfl]
      cases depth with
      | zero => exact absurd (ClosesFirst.last_iff.mp closes) (by simp)
      | succ depth => simp only [ih others (ClosesFirst.closing_iff.mp closes), Option.map_some]
    · rw [if_neg isClose]
      by_cases isOpen : piece = plain '('
      · subst isOpen
        rw [if_pos rfl, ih others (ClosesFirst.opening_iff.mp closes), Option.map_some]
      · rw [if_neg isOpen, ih others ((ClosesFirst.other_iff isOpen isClose).mp closes),
          Option.map_some]

theorem closesFirst_of_close? {depth : Nat} {text after : Text} {inside : List Piece}
    (closed : close? depth text = some (inside, after)) :
    ClosesFirst (depth + 1) (inside ++ [plain ')']) := by
  fun_induction close? depth text generalizing inside after with
  | case1 => cases closed
  | case2 text rest read =>
    cases closed
    exact ClosesFirst.last_iff.mpr rfl
  | case3 text rest depth read ih =>
    obtain ⟨⟨inner, left⟩, found, same⟩ := Option.map_eq_some_iff.mp closed
    cases same
    exact ClosesFirst.closing_iff.mpr (ih found)
  | case4 depth text rest read _ ih =>
    obtain ⟨⟨inner, left⟩, found, same⟩ := Option.map_eq_some_iff.mp closed
    cases same
    exact ClosesFirst.opening_iff.mpr (ih found)
  | case5 depth text piece rest read notClose notOpen ih =>
    obtain ⟨⟨inner, left⟩, found, same⟩ := Option.map_eq_some_iff.mp closed
    cases same
    exact (ClosesFirst.other_iff notOpen notClose).mpr (ih found)

/-- The search stops where one parenthesis more has closed than opened, for the first time. -/
theorem close?_eq_some_iff {depth : Nat} {text after : Text} {inside : List Piece} :
    close? depth text = some (inside, after) ↔
      text = join inside ++ ')' :: after ∧ (∀ piece ∈ inside, Proper piece) ∧
        ClosesFirst (depth + 1) (inside ++ [plain ')']) := by
  constructor
  · intro closed
    exact ⟨close?_eq_append closed, proper_of_mem_close? closed, closesFirst_of_close? closed⟩
  · rintro ⟨rfl, proper, closes⟩
    exact close?_append proper closes after

end Piece

open Piece

/-- The pieces of a text from an opening parenthesis to the first piece at which as many parentheses
have closed as opened; that piece starts at `close`. -/
structure ClosedBy (text : Text) (openParen close : Nat) (pieces : List Piece) : Prop where
  whole : ∀ piece ∈ pieces, Whole piece
  opens : pieces.head? = some (plain '(')
  even : FirstEven pieces
  located : ∃ before after, text = before ++ join pieces ++ after ∧ width before = openParen ∧
    width (before ++ join pieces.dropLast) = close

theorem parenthesised?_eq_some_iff {text args rest : Text} :
    parenthesised? text = some (args, rest) ↔ ∃ inside, args = join inside ∧
      text = '(' :: (join inside ++ ')' :: rest) ∧ (∀ piece ∈ inside, Proper piece) ∧
        ClosesFirst 1 (inside ++ [plain ')']) := by
  constructor
  · intro read
    have same := Offsets.parenthesised?_eq_append read
    subst same
    obtain ⟨⟨inside, after⟩, closed, same⟩ := Option.map_eq_some_iff.mp read
    cases same
    exact ⟨inside, rfl, rfl, (close?_eq_some_iff.mp closed).2⟩
  · rintro ⟨inside, rfl, rfl, proper, closes⟩
    rw [parenthesised?, close?_append proper closes, Option.map_some]

section

variable {text : Text} {openParen close : Nat}

theorem matchingParen?_eq_some_iff : matchingParen? text openParen = some close ↔
    ∃ before inside after, text = before ++ '(' :: (join inside ++ ')' :: after) ∧
      width before = openParen ∧ openParen + 1 + width (join inside) = close ∧
        (∀ piece ∈ inside, Proper piece) ∧ ClosesFirst 1 (inside ++ [plain ')']) := by
  constructor
  · intro found
    obtain ⟨⟨before, ahead⟩, split, behind⟩ := Option.bind_eq_some_iff.mp found
    obtain ⟨⟨args, after⟩, read, ends⟩ := Option.bind_eq_some_iff.mp behind
    obtain ⟨same, wide⟩ := splitAt?_eq_some_iff.mp split
    obtain ⟨inside, rfl, rfl, grammar⟩ := parenthesised?_eq_some_iff.mp read
    exact ⟨before, inside, after, same, wide, Option.some.inj ends, grammar⟩
  · rintro ⟨before, inside, after, rfl, rfl, rfl, grammar⟩
    have read : parenthesised? ('(' :: (join inside ++ ')' :: after)) = some (join inside, after) :=
      parenthesised?_eq_some_iff.mpr ⟨inside, rfl, rfl, grammar⟩
    simp only [matchingParen?, splitAt?_width, Option.bind_eq_bind, Option.bind_some, read]
    rfl

theorem exists_closedBy_iff :
    (∃ pieces, ClosedBy text openParen close pieces) ↔
      matchingParen? text openParen = some close := by
  rw [matchingParen?_eq_some_iff]
  constructor
  · rintro ⟨pieces, closed⟩
    obtain ⟨before, after, same, wide, ends⟩ := closed.located
    obtain ⟨more, rfl⟩ := List.head?_eq_some_iff.mp closed.opens
    obtain ⟨inside, rfl⟩ := (firstEven_open_iff.mp closed.even).exists_concat
    refine ⟨before, inside, after, ?_, wide, ?_, ?_, firstEven_open_iff.mp closed.even⟩
    · simp [same, join, Piece.text]
    · rw [← List.cons_append, List.dropLast_concat, width_append, wide, join_cons,
        width_append] at ends
      rw [← ends, Nat.add_assoc]
      rfl
    · intro piece member
      exact (closed.whole piece (by simp [member])).proper
  · rintro ⟨before, inside, after, rfl, wide, ends, proper, closes⟩
    refine ⟨plain '(' :: (inside ++ [plain ')']), ?_, rfl, firstEven_open_iff.mpr closes,
      before, after, ?_, wide, ?_⟩
    · have opening : Whole (plain '(') := .plain (by decide)
      have closing : Whole (plain ')') := .plain (by decide)
      intro piece member
      rw [List.mem_cons, List.mem_append, List.mem_singleton] at member
      rcases member with rfl | member | rfl
      · exact opening
      · exact proper_iff_whole.mp (proper piece member)
      · exact closing
    · simp [join, Piece.text]
    · rw [← List.cons_append, List.dropLast_concat, width_append, wide, join_cons,
        width_append, ← ends, Nat.add_assoc]
      rfl

end

/-- A parenthesis is closed at the first piece behind it at which as many have closed as opened, and
at none if there is no such piece or a literal before it is never closed. A scan over the bytes finds
the same. More text before and behind changes nothing, and between the two parentheses there are
complete literals and balanced parentheses. -/
theorem matchingParen?_exact (text : Text) (openParen : Nat) :
    (∀ close, matchingParen? text openParen = some close ↔
      ∃ pieces, ClosedBy text openParen close pieces) ∧
    Offsets.matchingParen text openParen = .ok (matchingParen? text openParen) ∧
    ∀ close, matchingParen? text openParen = some close →
      (∀ left right, matchingParen? (left ++ text ++ right) (width left + openParen) =
        some (width left + close)) ∧
      ∃ inside, text.slice? (openParen + 1) close = some (join inside) ∧
        (∀ piece ∈ inside, Whole piece) ∧ Balanced inside := by
  refine ⟨fun close => exists_closedBy_iff.symm, Offsets.matchingParen_returns text openParen, ?_⟩
  intro close found
  obtain ⟨before, inside, after, rfl, rfl, rfl, proper, closes⟩ :=
    matchingParen?_eq_some_iff.mp found
  constructor
  · intro left right
    refine matchingParen?_eq_some_iff.mpr
      ⟨left ++ before, inside, after ++ right, ?_, width_append left before, ?_, proper, closes⟩
    · simp
    · simp only [Nat.add_assoc]
  · refine ⟨inside, ?_, fun piece member => proper_iff_whole.mp (proper piece member),
      closes.balanced⟩
    have sliced := slice?_append (before ++ ['(']) (join inside) (')' :: after)
    simpa [Nat.add_assoc] using sliced

-- Behind an escaped quote a parenthesis still stands in the literal.
example : matchingParen? "f('\\'(', (é))".toList 1 = some 13 := by decide +kernel

end QuestRecords.Source
