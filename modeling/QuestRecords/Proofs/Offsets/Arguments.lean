import QuestRecords.Proofs.Offsets.Brackets
import QuestRecords.Proofs.Source.Pieces
import QuestRecords.Source.ListLiteral

namespace QuestRecords.Offsets

open Text Source

def isOpening (c : Char) : Bool := c == '(' || c == '[' || c == '\x7b'

def isClosing (c : Char) : Bool := c == ')' || c == ']' || c == '\x7d'

/-- The trimmed parts of a text from the offset of the current part on, scanned from another. -/
def partsFrom (text : Text) (depth : Int) (start offset : Nat) : Checked (List Text) :=
  match _here : byte? text offset with
  | none => do return [trim (← sliceFrom text start)]
  | some byte =>
    if (ascii? byte).any Piece.isQuote then
      match _closed : skipQuoted text offset with
      | .error fault => .error fault
      | .ok none => do return [trim (← sliceFrom text start)]
      | .ok (some closing) => partsFrom text depth start (closing + 1)
    else if (ascii? byte).any isOpening then do
      partsFrom text (← addSigned depth 1) start (offset + 1)
    else if (ascii? byte).any isClosing then do
      partsFrom text (← addSigned depth (-1)) start (offset + 1)
    else if ascii? byte = some ',' ∧ depth = 0 then do
      let part ← slice text start offset
      return trim part :: (← partsFrom text depth (offset + 1) (offset + 1))
    else partsFrom text depth start (offset + 1)
termination_by width text - offset
decreasing_by
  · have := lt_width_of_byte? _here
    have := lt_of_skipQuoted _closed
    omega
  all_goals
    have := lt_width_of_byte? _here
    omega

/-- The arguments, trimmed; a text that is blank throughout has none. -/
def splitTopLevelArgs (args : Text) : Checked (List Text) := do
  let parts ← partsFrom args 0 0 0
  return if parts = [[]] then [] else parts

def identifiersIn (args : Text) : Checked (List Text) := do
  return (← splitTopLevelArgs args).filter isIdentifier

/-- The parts of a text by its pieces, of which the first has been read up to here. -/
def groupsFrom (depth : Int) (current rest : Text) : List Text :=
  match _read : Piece.next? rest with
  | none => [current ++ rest]
  | some (piece, tail) =>
    if piece = .plain ',' ∧ depth = 0 then current :: groupsFrom depth [] tail
    else groupsFrom (depth + piece.nesting) (current ++ piece.text) tail
termination_by rest.length
decreasing_by all_goals exact Piece.length_lt_of_next? _read

/-- Parts with a text that is added to the last of them. -/
def withTail (unclosed : Text) : Text → List Text → List Text
  | group, [] => [group ++ unclosed]
  | group, next :: groups => group :: withTail unclosed next groups

theorem dropLast_append_getLast (unclosed group : Text) (groups : List Text) :
    (group :: groups).dropLast ++ [(group :: groups).getLast (List.cons_ne_nil _ _) ++ unclosed] =
      withTail unclosed group groups := by
  induction groups generalizing group with
  | nil => rfl
  | cons next groups ih =>
    rw [withTail, ← ih next, List.dropLast_cons_cons, List.getLast_cons_cons, List.cons_append]

theorem groupsFrom_eq (depth : Int) (current rest : Text) :
    groupsFrom depth current rest = withTail (Piece.split rest).2
      (current ++ Piece.join (Piece.cutAtCommas depth (Piece.split rest).1).1)
      ((Piece.cutAtCommas depth (Piece.split rest).1).2.map Piece.join) := by
  fun_induction groupsFrom depth current rest with
  | case1 depth current rest missing =>
    simp [Piece.split_of_next?_none missing, Piece.cutAtCommas, withTail]
  | case2 depth current rest piece tail read cut ih =>
    rw [Piece.split_of_next? read, Piece.cutAtCommas, if_pos cut, ih]
    simp [withTail]
  | case3 depth current rest piece tail read notCut ih =>
    rw [Piece.split_of_next? read, Piece.cutAtCommas, if_neg notCut, ih]
    simp

theorem rawArguments_eq (text : Text) : rawArguments text = groupsFrom 0 [] text := by
  rw [groupsFrom_eq, List.nil_append, ← dropLast_append_getLast]
  rfl

section

variable {text : Text} {depth : Int} {start offset : Nat} {byte : UInt8}

theorem partsFrom_of_end (ended : width text ≤ offset) :
    partsFrom text depth start offset = do return [trim (← sliceFrom text start)] := by
  rw [partsFrom]
  split
  · rfl
  · rename_i byte found
    have := lt_width_of_byte? found
    omega

theorem partsFrom_of_quote (found : byte? text offset = some byte)
    (isQuote : (ascii? byte).any Piece.isQuote = true) {closing : Option Nat}
    (skipped : skipQuoted text offset = .ok closing) :
    partsFrom text depth start offset =
      closing.elim (do return [trim (← sliceFrom text start)])
        fun closing => partsFrom text depth start (closing + 1) := by
  rw [partsFrom]
  split
  · simp_all
  · rename_i other here
    cases found.symm.trans here
    rw [if_pos isQuote]
    split
    · rename_i fault failed
      cases skipped.symm.trans failed
    · rename_i unclosed
      cases skipped.symm.trans unclosed
      rfl
    · rename_i stop closed
      cases skipped.symm.trans closed
      rfl

theorem partsFrom_of_byte? (found : byte? text offset = some byte)
    (notQuote : (ascii? byte).any Piece.isQuote = false) :
    partsFrom text depth start offset =
      if (ascii? byte).any isOpening then do
        partsFrom text (← addSigned depth 1) start (offset + 1)
      else if (ascii? byte).any isClosing then do
        partsFrom text (← addSigned depth (-1)) start (offset + 1)
      else if ascii? byte = some ',' ∧ depth = 0 then do
        let part ← slice text start offset
        return trim part :: (← partsFrom text depth (offset + 1) (offset + 1))
      else partsFrom text depth start (offset + 1) := by
  rw [partsFrom]
  split
  · simp_all
  · rename_i other here
    cases found.symm.trans here
    rw [if_neg (by simp [notQuote])]

end

theorem narrow_of_isOpening (c : Char) (opening : isOpening c = true) : c.utf8Size = 1 := by
  simp only [isOpening, Bool.or_eq_true, beq_iff_eq] at opening
  rcases opening with (rfl | rfl) | rfl <;> rfl

theorem narrow_of_isClosing (c : Char) (closing : isClosing c = true) : c.utf8Size = 1 := by
  simp only [isClosing, Bool.or_eq_true, beq_iff_eq] at closing
  rcases closing with (rfl | rfl) | rfl <;> rfl

theorem nesting_plain (c : Char) :
    (Piece.plain c).nesting = if isOpening c then 1 else if isClosing c then -1 else 0 := by
  simp [Piece.nesting, isOpening, isClosing, or_assoc]

theorem natAbs_nesting_le (piece : Piece) : piece.nesting.natAbs ≤ width piece.text := by
  cases piece with
  | quoted raw => exact Nat.zero_le _
  | plain c =>
    have := c.utf8Size_pos
    rw [nesting_plain, Piece.text, width_cons]
    split
    · omega
    · split <;> omega

/-- A scan that does not cut at a piece goes on behind it at the depth that the piece leaves. -/
theorem partsFrom_piece {depth : Int} {rest tail : Text} {piece : Piece}
    (read : Piece.next? rest = some (piece, tail)) (notCut : ¬ (piece = .plain ',' ∧ depth = 0))
    (start : Nat) {before : Text} (fits : width (before ++ rest) < 0x80000000)
    (bounded : depth.natAbs ≤ width before) :
    partsFrom (before ++ rest) depth start (width before) =
      partsFrom (before ++ rest) (depth + piece.nesting) start (width (before ++ piece.text)) := by
  cases piece with
  | quoted raw =>
    obtain ⟨q, inner, rfl, isQuote, closing, skipped, ends⟩ := skipQuoted_of_next? read before
    obtain ⟨byte, here, shown⟩ := exists_byte before inner q
    rw [partsFrom_of_quote here (by rw [shown, any_shown? narrow_of_isQuote, isQuote]) skipped,
      Option.elim_some, ends, Piece.nesting, Int.add_zero]
    rfl
  | plain c =>
    obtain ⟨rfl, notQuote⟩ := next?_eq_some_plain_iff.mp read
    have scanned : ∀ {offset byte}, byte? (before ++ c :: tail) offset = some byte →
        ascii? byte = shown? c → partsFrom (before ++ c :: tail) depth start offset =
          if isOpening c then do
            partsFrom (before ++ c :: tail) (← addSigned depth 1) start (offset + 1)
          else if isClosing c then do
            partsFrom (before ++ c :: tail) (← addSigned depth (-1)) start (offset + 1)
          else partsFrom (before ++ c :: tail) depth start (offset + 1) := by
      intro offset byte found shown
      have comma : ¬ (shown? c = some ',' ∧ depth = 0) := by
        rintro ⟨same, level⟩
        exact notCut ⟨congrArg Piece.plain (shown?_eq_some_iff.mp same).1, level⟩
      rw [partsFrom_of_byte? found (by rw [shown, any_shown? narrow_of_isQuote, notQuote]), shown,
        any_shown? narrow_of_isOpening, any_shown? narrow_of_isClosing, if_neg comma]
    obtain ⟨byte, here, shown⟩ := exists_byte before tail c
    have level : width (before ++ c :: tail) = width before + (c.utf8Size + width tail) := by
      rw [width_append, width_cons]
    by_cases opening : isOpening c = true
    · have size := narrow_of_isOpening c opening
      rw [scanned here shown, if_pos opening,
        addSigned_of_bounds (by omega) (by omega), ok_bind, nesting_plain, if_pos opening]
      simp [Piece.text, size]
    by_cases closing : isClosing c = true
    · have size := narrow_of_isClosing c closing
      rw [scanned here shown, if_neg opening, if_pos closing,
        addSigned_of_bounds (by omega) (by omega), ok_bind, nesting_plain, if_neg opening,
        if_pos closing]
      simp [Piece.text, size]
    · rw [nesting_plain, if_neg opening, if_neg closing, Int.add_zero]
      apply pass _ tail
      intro offset byte found shown
      rw [scanned found shown, if_neg opening, if_neg closing]

/-- The scan cuts where reading by pieces does, as long as the depth stays within the bytes that
were passed. -/
theorem partsFrom_append (depth : Int) (before current rest : Text)
    (fits : width (before ++ current ++ rest) < 0x80000000)
    (bounded : depth.natAbs ≤ width (before ++ current)) :
    partsFrom (before ++ current ++ rest) depth (width before) (width (before ++ current)) =
      .ok ((groupsFrom depth current rest).map trim) := by
  fun_induction groupsFrom depth current rest generalizing before with
  | case1 depth current rest missing =>
    have last : sliceFrom (before ++ current ++ rest) (width before) = .ok (current ++ rest) := by
      rw [List.append_assoc, sliceFrom_append]
    rcases skipQuoted_of_next?_none missing (before ++ current) with
      rfl | ⟨q, tail, rfl, isQuote, skipped⟩
    · rw [partsFrom_of_end (by simp), last]
      rfl
    · obtain ⟨byte, here, shown⟩ := exists_byte (before ++ current) tail q
      rw [partsFrom_of_quote here (by rw [shown, any_shown? narrow_of_isQuote, isQuote]) skipped,
        Option.elim_none, last]
      rfl
  | case2 depth current rest piece tail read cut ih =>
    obtain ⟨rfl, rfl⟩ := cut
    obtain ⟨rfl, notQuote⟩ := next?_eq_some_plain_iff.mp read
    obtain ⟨byte, here, shown⟩ := exists_byte (before ++ current) tail ','
    have size : ','.utf8Size = 1 := rfl
    have part : slice (before ++ current ++ ',' :: tail) (width before)
        (width (before ++ current)) = .ok current :=
      slice_ok before _ (List.append_assoc ..) rfl (width_append before current)
    have later := ih (before ++ current ++ [',']) (by simpa using fits) (by simp)
    simp only [List.append_nil, List.append_assoc, List.singleton_append, width_append, width_cons,
      width_nil, size, Nat.add_zero] at later
    rw [partsFrom_of_byte? here (by rw [shown, any_shown? narrow_of_isQuote, notQuote]), shown,
      shown?_of_narrow size, if_neg (by decide), if_neg (by decide), if_pos ⟨rfl, rfl⟩, part,
      ok_bind]
    simp only [width_append, List.append_assoc, Nat.add_assoc, later, ok_bind, pure_eq_ok,
      List.map_cons]
  | case3 depth current rest piece tail read notCut ih =>
    have same := Piece.next?_eq_append read
    have level : (depth + piece.nesting).natAbs ≤ width (before ++ (current ++ piece.text)) := by
      have := natAbs_nesting_le piece
      simp only [width_append] at bounded ⊢
      omega
    have later := ih before (by simpa [same, Nat.add_assoc] using fits) level
    rw [partsFrom_piece read notCut _ fits bounded, ← later]
    simp [same]

/-- Splitting by offsets never fails and gives the same arguments, for every text that has fewer
bytes than a signed depth can count. -/
theorem splitTopLevelArgs_returns {args : Text} (fits : width args < 0x80000000) :
    splitTopLevelArgs args = .ok (splitArguments args) := by
  have parts := partsFrom_append 0 [] [] args fits (Nat.zero_le _)
  simp only [List.append_nil, List.nil_append, width_nil, ← rawArguments_eq] at parts
  rw [splitTopLevelArgs, parts]
  rfl

theorem identifiersIn_returns {args : Text} (fits : width args < 0x80000000) :
    identifiersIn args = .ok (Source.identifiersIn args) := by
  rw [identifiersIn, splitTopLevelArgs_returns fits]
  rfl

theorem isInfix_of_mem_groupsFrom {depth : Int} {current rest part : Text}
    (member : part ∈ groupsFrom depth current rest) : part <:+: current ++ rest := by
  fun_induction groupsFrom depth current rest with
  | case1 depth current rest missing =>
    obtain rfl := List.mem_singleton.mp member
    exact List.infix_rfl
  | case2 depth current rest piece tail read cut ih =>
    rcases List.mem_cons.mp member with rfl | member
    · exact (List.prefix_append part rest).isInfix
    · apply (ih member).trans
      rw [Piece.next?_eq_append read, ← List.append_assoc]
      exact (List.suffix_append _ tail).isInfix
  | case3 depth current rest piece tail read notCut ih =>
    rw [Piece.next?_eq_append read, ← List.append_assoc]
    exact ih member

theorem trim_isInfix (text : Text) : trim text <:+: text := by
  have ends : trimEnd (trimStart text) <+: trimStart text := by
    rw [trimEnd, ← List.reverse_suffix, List.reverse_reverse]
    exact List.dropWhile_suffix isBlank
  exact ends.isInfix.trans (List.dropWhile_suffix isBlank).isInfix

/-- Every argument is a part of the text that was split. -/
theorem isInfix_of_mem_splitArguments {args argument : Text}
    (member : argument ∈ splitArguments args) : argument <:+: args := by
  have raw : argument ∈ (rawArguments args).map trim := by
    simp only [splitArguments] at member
    split at member
    · cases member
    · exact member
  obtain ⟨part, among, rfl⟩ := List.mem_map.mp raw
  rw [rawArguments_eq] at among
  exact (trim_isInfix part).trans (isInfix_of_mem_groupsFrom among)

theorem width_le_of_isInfix {part text : Text} (inside : part <:+: text) :
    width part ≤ width text := by
  obtain ⟨before, after, rfl⟩ := inside
  simp only [width_append]
  omega

end QuestRecords.Offsets
