import QuestRecords.Proofs.Offsets.Scans
import QuestRecords.Proofs.Source.LiteralGrammar

namespace QuestRecords.Offsets

open Text Source Source.Literal

/-- Reads a fragment that starts at one offset, of which so many bytes have been read: its value,
and the offset behind its closing quote. -/
def fragmentFrom (start read : Nat) : Text → Option (Text × Nat)
  | [] => none
  | '\\' :: c :: rest =>
    (fragmentFrom start (read + '\\'.utf8Size + c.utf8Size) rest).map fun found =>
      (c :: found.1, found.2)
  | '"' :: _ => some ([], start + read + 1)
  | c :: rest =>
    (fragmentFrom start (read + c.utf8Size) rest).map fun found => (c :: found.1, found.2)

def readFragment (source : Text) (openQuote : Nat) : Checked (Option (Text × Nat)) := do
  return fragmentFrom (openQuote + 1) 0 (← sliceFrom source (openQuote + 1))

theorem le_skipWhitespace (text : Text) (offset : Nat) : offset ≤ skipWhitespace text offset := by
  fun_induction skipWhitespace text offset with
  | case1 => exact Nat.le_refl _
  | case2 offset byte here gap ih => omega
  | case3 => exact Nat.le_refl _

theorem lt_width_of_holds {text : Text} {offset : Nat} {c : Char}
    (found : holds text offset c = true) : offset < width text := by
  obtain ⟨before, rest, rfl, rfl⟩ := exists_append_of_holds found
  have := c.utf8Size_pos
  rw [width_append, width_cons]
  omega

theorem lt_of_fragmentFrom {start read : Nat} {text : Text} {found : Text × Nat}
    (ended : fragmentFrom start read text = some found) : start < found.2 := by
  fun_induction fragmentFrom start read text generalizing found with
  | case1 => cases ended
  | case2 read c rest ih =>
    obtain ⟨inner, found, rfl⟩ := Option.map_eq_some_iff.mp ended
    have := ih found
    exact this
  | case3 read rest =>
    cases ended
    omega
  | case4 read c rest _ _ ih =>
    obtain ⟨inner, found, rfl⟩ := Option.map_eq_some_iff.mp ended
    have := ih found
    exact this

theorem lt_of_readFragment {source : Text} {openQuote : Nat} {found : Text × Nat}
    (ended : readFragment source openQuote = .ok (some found)) : openQuote < found.2 := by
  unfold readFragment at ended
  cases body : sliceFrom source (openQuote + 1) with
  | error fault => simp [body, bind, Except.bind] at ended
  | ok rest =>
    rw [body] at ended
    have := lt_of_fragmentFrom (Except.ok.inj ended)
    omega

/-- The opening quote behind a plus sign, with gaps before each, from an offset on. -/
def nextQuote? (source : Text) (stop : Nat) : Option Nat :=
  let operator := skipWhitespace source stop
  if holds source operator '+' then
    let next := skipWhitespace source (operator + 1)
    if holds source next '"' then some next else none
  else none

theorem bounds_of_nextQuote? {source : Text} {stop next : Nat}
    (found : nextQuote? source stop = some next) : stop < next ∧ next < width source := by
  obtain ⟨plus, found⟩ := Option.ite_none_right_eq_some.mp found
  obtain ⟨quote, found⟩ := Option.ite_none_right_eq_some.mp found
  cases found
  have := le_skipWhitespace source stop
  have := le_skipWhitespace source (skipWhitespace source stop + 1)
  exact ⟨by omega, lt_width_of_holds quote⟩

/-- Reads a chain of fragments from the opening quote of one of them; the value of those before
it is given. -/
def readChain (source value : Text) (quote : Nat) : Checked (Option Reading) :=
  match _first : readFragment source quote with
  | .error fault => .error fault
  | .ok none => .ok none
  | .ok (some (fragment, stop)) =>
    match _more : nextQuote? source stop with
    | some next => readChain source (value ++ fragment) next
    | none => .ok (some ⟨value ++ fragment, stop⟩)
termination_by width source - quote
decreasing_by
  have := lt_of_readFragment _first
  have := bounds_of_nextQuote? _more
  simp only at *
  omega

def readString (source : Text) (openQuote : Nat) : Checked (Option Reading) :=
  if holds source openQuote '"' then readChain source [] openQuote else .ok none

def readStringArgument (argument : Text) : Checked (Option Text) := do
  return (← readString (trimStart argument) 0).map (·.value)

theorem upTo_cons {text rest : Text} (shorter : rest.length ≤ text.length) (c : Char) :
    upTo (c :: text) rest = c :: upTo text rest := by
  rw [upTo, upTo, List.length_cons, Nat.succ_sub shorter, List.take_succ_cons]

theorem fragmentFrom_eq (start read : Nat) (text : Text) :
    fragmentFrom start read text = (fragment? text).map fun found =>
      (found.1, start + read + width (upTo text found.2)) := by
  fun_induction fragment? text generalizing read with
  | case1 => rfl
  | case2 rest =>
    have closing : upTo ('"' :: rest) rest = ['"'] := upTo_append ['"'] rest
    rw [Option.map_some, closing]
    rfl
  | case3 c rest ih =>
    rw [fragmentFrom, ih, Option.map_map, Option.map_map]
    cases found : fragment? rest with
    | none => rfl
    | some ended =>
      have shorter := Nat.le_of_lt (length_fragment?_lt found)
      have longer : ended.2.length ≤ (c :: rest).length := Nat.le_succ_of_le shorter
      simp [upTo_cons shorter, upTo_cons longer, Nat.add_assoc]
  | case4 c rest notQuote notPair ih =>
    rw [fragmentFrom, ih, Option.map_map, Option.map_map]
    · cases found : fragment? rest with
      | none => rfl
      | some ended =>
        simp [upTo_cons (Nat.le_of_lt (length_fragment?_lt found)), Nat.add_assoc]
    · exact notPair
    · exact notQuote

theorem readFragment_append (before rest : Text) :
    readFragment (before ++ '"' :: rest) (width before) =
      .ok ((fragment? rest).map fun found =>
        (found.1, width before + 1 + width (upTo rest found.2))) := by
  have body := sliceFrom_append (before ++ ['"']) rest
  simp only [List.append_assoc, List.singleton_append, width_append, width_cons, width_nil,
    utf8Size_quote, Nat.add_zero] at body
  rw [readFragment, body, ok_bind, fragmentFrom_eq]
  rfl

section

variable {source value : Text} {quote : Nat}

theorem readChain_of_unclosed (unclosed : readFragment source quote = .ok none) :
    readChain source value quote = .ok none := by
  rw [readChain]
  split
  · rename_i fault failed
    cases unclosed.symm.trans failed
  · rfl
  · rename_i fragment stop read
    cases unclosed.symm.trans read

theorem readChain_of_fragment {found : Text × Nat}
    (read : readFragment source quote = .ok (some found)) :
    readChain source value quote =
      (nextQuote? source found.2).elim (.ok (some ⟨value ++ found.1, found.2⟩))
        (readChain source (value ++ found.1)) := by
  rw [readChain]
  split
  · rename_i fault failed
    cases read.symm.trans failed
  · rename_i unclosed
    cases read.symm.trans unclosed
  · rename_i fragment stop same
    cases read.symm.trans same
    split
    · rename_i next more
      rw [more, Option.elim_some]
    · rename_i last
      rw [last, Option.elim_none]

end

theorem continuation?_eq (text : Text) :
    continuation? text =
      if (skipGaps text).head?.any (· == '+') then
        if (skipGaps (skipGaps text).tail).head?.any (· == '"') then
          some (skipGaps (skipGaps text).tail)
        else none
      else none := by
  rw [continuation?]
  cases first : skipGaps text with
  | nil => rfl
  | cons c rest =>
    by_cases plus : c = '+'
    · subst plus
      cases second : skipGaps rest with
      | nil => simp [second]
      | cons d body =>
        by_cases quote : d = '"'
        · subst quote
          simp [second]
        · simp [second, quote]
    · simp [plus]

/-- Between two fragments the scan finds the quote that reading finds. -/
theorem nextQuote?_append (before rest : Text) :
    nextQuote? (before ++ rest) (width before) =
      (continuation? rest).map fun next => width before + width (upTo rest next) := by
  have size : '+'.utf8Size = 1 := rfl
  have behindGaps : before ++ rest = before ++ rest.takeWhile isGap ++ skipGaps rest := by
    rw [List.append_assoc, takeWhile_append_skipGaps]
  have operator : holds (before ++ rest) (width (before ++ rest.takeWhile isGap)) '+' =
      (skipGaps rest).head?.any (· == '+') := by
    rw [behindGaps, holds_append size]
  rw [nextQuote?, skipWhitespace_append, operator, continuation?_eq]
  by_cases plus : (skipGaps rest).head?.any (· == '+') = true
  · obtain ⟨more, same⟩ := head?_any_beq_iff.mp plus
    have behindPlus : before ++ rest = before ++ rest.takeWhile isGap ++ ['+'] ++ more := by
      rw [behindGaps, same, List.append_assoc _ ['+'], List.singleton_append]
    have split : rest = rest.takeWhile isGap ++ '+' :: more.takeWhile isGap ++ skipGaps more := by
      rw [List.append_assoc, List.cons_append, takeWhile_append_skipGaps, ← same,
        takeWhile_append_skipGaps]
    have next : skipWhitespace (before ++ rest) (width (before ++ rest.takeWhile isGap) + 1) =
        width (before ++ (rest.takeWhile isGap ++ '+' :: more.takeWhile isGap)) := by
      have skipped := skipWhitespace_append (before ++ rest.takeWhile isGap ++ ['+']) more
      rw [← behindPlus, width_append _ ['+']] at skipped
      simpa [size] using skipped
    have quote : holds (before ++ rest)
        (width (before ++ (rest.takeWhile isGap ++ '+' :: more.takeWhile isGap))) '"' =
          (skipGaps more).head?.any (· == '"') := by
      have behind : before ++ rest = before ++
          (rest.takeWhile isGap ++ '+' :: more.takeWhile isGap) ++ skipGaps more := by
        rw [List.append_assoc, ← split]
      rw [behind, holds_append rfl]
    have read : upTo rest (skipGaps more) =
        rest.takeWhile isGap ++ '+' :: more.takeWhile isGap := by
      have read := upTo_append (rest.takeWhile isGap ++ '+' :: more.takeWhile isGap)
        (skipGaps more)
      rwa [← split] at read
    rw [if_pos plus, if_pos plus]
    simp only [next, quote, same, List.tail_cons]
    by_cases opens : (skipGaps more).head?.any (· == '"') = true
    · rw [if_pos opens, if_pos opens, Option.map_some, read, width_append before]
    · rw [if_neg opens, if_neg opens, Option.map_none]
  · rw [if_neg plus, if_neg plus, Option.map_none]

theorem readFragment_of_fragment? {body value rest : Text}
    (read : fragment? body = some (value, rest)) (before : Text) :
    ∃ raw, '"' :: body = raw ++ rest ∧
      readFragment (before ++ '"' :: body) (width before) =
        .ok (some (value, width (before ++ raw))) := by
  obtain ⟨raw, -, rfl⟩ := body_of_fragment? read
  refine ⟨'"' :: (raw ++ ['"']), by simp, ?_⟩
  have ended : upTo (raw ++ '"' :: rest) rest = raw ++ ['"'] := by
    simpa using upTo_append (raw ++ ['"']) rest
  rw [readFragment_append, read, Option.map_some, ended]
  simp [Nat.add_assoc]

theorem readChain_append (value before body : Text) :
    readChain (before ++ '"' :: body) value (width before) =
      .ok ((chain? ('"' :: body)).map fun read =>
        ⟨value ++ read.1, width before + width (upTo ('"' :: body) read.2)⟩) := by
  obtain ⟨ahead, opened⟩ : ∃ ahead, ahead = '"' :: body := ⟨_, rfl⟩
  rw [← opened]
  fun_induction chain? ahead generalizing value before body with
  | case1 inner unclosed =>
    have fragment := readFragment_append before inner
    rw [unclosed] at fragment
    rw [readChain_of_unclosed fragment]
    rfl
  | case2 inner first rest read last =>
    obtain ⟨raw, split, fragment⟩ := readFragment_of_fragment? read before
    rw [readChain_of_fragment fragment, split, ← List.append_assoc, nextQuote?_append, last,
      Option.map_none, Option.elim_none, Option.map_some, upTo_append, width_append]
  | case3 inner first rest read next more ih =>
    obtain ⟨raw, split, fragment⟩ := readFragment_of_fragment? read before
    obtain ⟨between, left, -, rfl, rfl⟩ := joint_of_continuation? more
    have joined : before ++ '"' :: inner = before ++ raw ++ between ++ '"' :: left := by
      rw [split, List.append_assoc, List.append_assoc]
    have quote : nextQuote? (before ++ '"' :: inner) (width (before ++ raw)) =
        some (width (before ++ raw ++ between)) := by
      rw [split, ← List.append_assoc, nextQuote?_append, more, Option.map_some, upTo_append,
        width_append _ between]
    rw [readChain_of_fragment fragment, quote, Option.elim_some, joined,
      ih (value ++ first) (before ++ raw ++ between) left rfl]
    cases later : chain? ('"' :: left) with
    | none => rfl
    | some parts =>
      obtain ⟨others, after⟩ := parts
      obtain ⟨chain, -, same, -⟩ := chain_of_chain? later
      have first_end : upTo ('"' :: inner) after = raw ++ between ++ chain := by
        rw [split, same, ← List.append_assoc, ← List.append_assoc, upTo_append]
      simp [first_end, same, upTo_append, Nat.add_assoc]
  | case4 ahead notQuote =>
    exact absurd opened (notQuote body)

/-- Reading a literal by offsets never fails, at whatever offset it starts. -/
theorem readString_returns (source : Text) (openQuote : Nat) :
    readString source openQuote = .ok (Literal.read? source openQuote) := by
  by_cases opens : holds source openQuote '"' = true
  · obtain ⟨before, body, rfl, rfl⟩ := exists_append_of_holds opens
    rw [readString, if_pos opens, readChain_append, Literal.read?, splitAt?_width]
    cases read : chain? ('"' :: body) with
    | none => simp [read]
    | some parts => simp [read]
  · rw [readString, if_neg opens, Literal.read?]
    cases found : source.splitAt? openQuote with
    | none => rfl
    | some parts =>
      obtain ⟨before, ahead⟩ := parts
      obtain ⟨rfl, rfl⟩ := splitAt?_eq_some_iff.mp found
      rw [holds_append rfl] at opens
      have unread : chain? ahead = none := by
        apply chain?_eq_none_iff.mpr
        left
        intro quote
        simp [quote] at opens
      simp [unread]

theorem readStringArgument_returns (argument : Text) :
    readStringArgument argument = .ok (Literal.ofArgument? argument) := by
  have start : (trimStart argument).splitAt? 0 = some ([], trimStart argument) :=
    splitAt?_width [] (trimStart argument)
  rw [readStringArgument, readString_returns, ok_bind, Literal.read?, start, Literal.ofArgument?]
  cases read : chain? (trimStart argument) with
  | none => simp [read]
  | some parts => simp [read]

end QuestRecords.Offsets
