import QuestRecords.Proofs.Offsets.Scans
import QuestRecords.Source.Call

namespace QuestRecords.Offsets

open Text Source

def closeFrom (text : Text) (depth offset : Nat) : Checked (Option Nat) :=
  match _here : byte? text offset with
  | none => .ok none
  | some byte =>
    if (ascii? byte).any Piece.isQuote then
      match _closed : skipQuoted text offset with
      | .error fault => .error fault
      | .ok none => .ok none
      | .ok (some closing) => closeFrom text depth (closing + 1)
    else if ascii? byte = some '(' then closeFrom text (depth + 1) (offset + 1)
    else if ascii? byte = some ')' then do
      let left ← subtract depth 1
      if left = 0 then return some offset else closeFrom text left (offset + 1)
    else closeFrom text depth (offset + 1)
termination_by width text - offset
decreasing_by
  · have := lt_width_of_byte? _here
    have := lt_of_skipQuoted _closed
    omega
  all_goals
    have := lt_width_of_byte? _here
    omega

/-- The offset of the parenthesis that closes the one at a given offset. -/
def matchingParen (text : Text) (openParen : Nat) : Checked (Option Nat) :=
  if holds text openParen '(' then closeFrom text 0 openParen else .ok none

theorem closeFrom_of_end {text : Text} {depth offset : Nat} (ended : width text ≤ offset) :
    closeFrom text depth offset = .ok none := by
  rw [closeFrom]
  split
  · rfl
  · rename_i byte found
    have := lt_width_of_byte? found
    omega

section

variable {text : Text} {depth offset : Nat} {byte : UInt8}

theorem closeFrom_of_quote (found : byte? text offset = some byte)
    (isQuote : (ascii? byte).any Piece.isQuote = true) {closing : Option Nat}
    (skipped : skipQuoted text offset = .ok closing) :
    closeFrom text depth offset =
      closing.elim (.ok none) fun closing => closeFrom text depth (closing + 1) := by
  rw [closeFrom]
  split
  · simp_all
  · rename_i other here
    cases found.symm.trans here
    rw [if_pos isQuote]
    split
    · rename_i fault failed
      cases skipped.symm.trans failed
    · rename_i unclosed
      cases skipped.symm.trans unclosed
      rfl
    · rename_i stop closed
      cases skipped.symm.trans closed
      rfl

theorem closeFrom_of_byte? (found : byte? text offset = some byte)
    (notQuote : (ascii? byte).any Piece.isQuote = false) :
    closeFrom text depth offset =
      if ascii? byte = some '(' then closeFrom text (depth + 1) (offset + 1)
      else if ascii? byte = some ')' then do
        let left ← subtract depth 1
        if left = 0 then return some offset else closeFrom text left (offset + 1)
      else closeFrom text depth (offset + 1) := by
  rw [closeFrom]
  split
  · simp_all
  · rename_i other here
    cases found.symm.trans here
    rw [if_neg (by simp [notQuote])]

end

theorem closeFrom_other {c : Char} (notQuote : Piece.isQuote c = false) (notOpen : c ≠ '(')
    (notClose : c ≠ ')') (before rest : Text) (depth : Nat) :
    closeFrom (before ++ c :: rest) depth (width before) =
      closeFrom (before ++ c :: rest) depth (width (before ++ [c])) := by
  apply pass before rest
  intro offset byte found shown
  have plain : (ascii? byte).any Piece.isQuote = false := by
    rw [shown, any_shown? narrow_of_isQuote, notQuote]
  rw [closeFrom_of_byte? found plain, shown, if_neg (shown?_ne notOpen),
    if_neg (shown?_ne notClose)]

/-- The scan finds the parenthesis that reading by pieces stops at. -/
theorem closeFrom_append (depth : Nat) (before rest : Text) :
    closeFrom (before ++ rest) (depth + 1) (width before) =
      .ok ((Piece.close? depth rest).map fun read => width before + width (Piece.join read.1)) := by
  fun_induction Piece.close? depth rest generalizing before with
  | case1 depth text missing =>
    rcases skipQuoted_of_next?_none missing before with rfl | ⟨q, tail, rfl, isQuote, skipped⟩
    · exact closeFrom_of_end (by simp)
    · obtain ⟨byte, here, shown⟩ := exists_byte before tail q
      rw [closeFrom_of_quote here (by rw [shown, any_shown? narrow_of_isQuote, isQuote]) skipped]
      rfl
  | case2 text rest read =>
    obtain ⟨rfl, notQuote⟩ := next?_eq_some_plain_iff.mp read
    obtain ⟨byte, here, shown⟩ := exists_byte before rest ')'
    rw [closeFrom_of_byte? here (by rw [shown, any_shown? narrow_of_isQuote, notQuote]), shown,
      shown?_of_narrow rfl]
    simp
  | case3 text rest depth read ih =>
    obtain ⟨rfl, notQuote⟩ := next?_eq_some_plain_iff.mp read
    obtain ⟨byte, here, shown⟩ := exists_byte before rest ')'
    have next := ih (before ++ [')'])
    simp only [List.append_assoc, List.singleton_append, width_append, width_cons, width_nil,
      utf8Size_closeParen] at next
    rw [closeFrom_of_byte? here (by rw [shown, any_shown? narrow_of_isQuote, notQuote]), shown,
      shown?_of_narrow utf8Size_closeParen, if_neg (by decide), if_pos rfl, subtract_succ,
      ok_bind, if_neg (Nat.succ_ne_zero depth), next, Option.map_map]
    congr 2
    funext read
    simp [Piece.text, Nat.add_assoc]
  | case4 depth text rest read notClose ih =>
    obtain ⟨rfl, notQuote⟩ := next?_eq_some_plain_iff.mp read
    obtain ⟨byte, here, shown⟩ := exists_byte before rest '('
    have next := ih (before ++ ['('])
    simp only [List.append_assoc, List.singleton_append, width_append, width_cons, width_nil,
      utf8Size_openParen] at next
    rw [closeFrom_of_byte? here (by rw [shown, any_shown? narrow_of_isQuote, notQuote]), shown,
      shown?_of_narrow utf8Size_openParen, if_pos rfl, next, Option.map_map]
    congr 2
    funext read
    simp [Piece.text, Nat.add_assoc]
  | case5 depth text piece rest read notClose notOpen ih =>
    have next := ih (before ++ piece.text)
    rw [List.append_assoc, ← Piece.next?_eq_append read] at next
    have same : closeFrom (before ++ text) (depth + 1) (width before) =
        closeFrom (before ++ text) (depth + 1) (width (before ++ piece.text)) := by
      cases piece with
      | quoted raw =>
        obtain ⟨q, tail, rfl, isQuote, closing, skipped, ends⟩ := skipQuoted_of_next? read before
        obtain ⟨byte, here, shown⟩ := exists_byte before tail q
        rw [closeFrom_of_quote here (by rw [shown, any_shown? narrow_of_isQuote, isQuote]) skipped,
          Option.elim_some, ends]
        rfl
      | plain c =>
        obtain ⟨rfl, notQuote⟩ := next?_eq_some_plain_iff.mp read
        exact closeFrom_other notQuote (fun same => notOpen (congrArg Piece.plain same))
          (fun same => notClose (congrArg Piece.plain same)) before rest (depth + 1)
    rw [same, next, Option.map_map]
    congr 2
    funext read
    simp [Nat.add_assoc]

theorem matchingParen_append (before rest : Text) :
    matchingParen (before ++ rest) (width before) =
      .ok ((parenthesised? rest).map fun read => width before + 1 + width read.1) := by
  by_cases opens : holds (before ++ rest) (width before) '(' = true
  · rw [holds_append utf8Size_openParen] at opens
    obtain ⟨tail, rfl⟩ := head?_any_beq_iff.mp opens
    obtain ⟨byte, here, shown⟩ := exists_byte before tail '('
    have closed := closeFrom_append 0 (before ++ ['(']) tail
    simp only [List.append_assoc, List.singleton_append, width_append, width_cons, width_nil,
      utf8Size_openParen] at closed
    rw [matchingParen, holds_append utf8Size_openParen, if_pos opens,
      closeFrom_of_byte? here (by rw [shown, any_shown? narrow_of_isQuote]; rfl), shown,
      shown?_of_narrow utf8Size_openParen, if_pos rfl, closed, parenthesised?, Option.map_map]
    rfl
  · rw [matchingParen, if_neg opens]
    cases rest with
    | nil => rfl
    | cons c rest =>
      have other : c ≠ '(' := by
        rintro rfl
        rw [holds_append utf8Size_openParen] at opens
        exact opens (head?_any_beq_iff.mpr ⟨rest, rfl⟩)
      rw [parenthesised?]
      · rfl
      · intro rest same
        exact other (List.cons.inj same).1

/-- Matching by bytes never fails, at whatever offset it starts. -/
theorem matchingParen_returns (text : Text) (openParen : Nat) :
    matchingParen text openParen = .ok (matchingParen? text openParen) := by
  by_cases opens : holds text openParen '(' = true
  · obtain ⟨before, rest, rfl, rfl⟩ := exists_append_of_holds opens
    rw [matchingParen_append, matchingParen?, splitAt?_width]
    cases closed : parenthesised? ('(' :: rest) with
    | none => simp [closed]
    | some read => simp [closed]
  · rw [matchingParen, if_neg opens, matchingParen?]
    cases found : text.splitAt? openParen with
    | none => rfl
    | some parts =>
      obtain ⟨before, after⟩ := parts
      obtain ⟨rfl, rfl⟩ := splitAt?_eq_some_iff.mp found
      have closed := matchingParen_append before after
      rw [matchingParen, if_neg opens] at closed
      have unmatched := Option.map_eq_none_iff.mp (Except.ok.inj closed).symm
      simp [unmatched]

theorem matchingParen_site (site : Site) {header paren : Text}
    (split : site.ahead = header ++ paren) :
    matchingParen site.text (site.offset + width header) =
      .ok ((parenthesised? paren).map fun read =>
        site.offset + width header + 1 + width read.1) := by
  rw [site_text site split, site_offset, matchingParen_append]

def callAt (text : Text) (start openParen : Nat) : Checked (Option Call) := do
  match ← matchingParen text openParen with
  | none => return none
  | some close =>
    let args ← slice text (openParen + 1) close
    let whole ← slice text start (close + 1)
    return some { start, stop := close + 1, argsStart := openParen + 1, args, text := whole }

theorem parenthesised?_eq_append {text args rest : Text}
    (read : parenthesised? text = some (args, rest)) : text = '(' :: (args ++ ')' :: rest) := by
  cases text with
  | nil => cases read
  | cons c tail =>
    by_cases opens : c = '('
    · subst opens
      obtain ⟨⟨pieces, after⟩, closed, same⟩ := Option.map_eq_some_iff.mp read
      cases same
      rw [Piece.close?_eq_append closed]
    · rw [parenthesised?] at read
      · cases read
      · intro rest same
        exact absurd (List.cons.inj same).1 opens

section

variable (site : Site) {header paren args rest : Text} (split : site.ahead = header ++ paren)
  (read : parenthesised? paren = some (args, rest))

include split read

/-- The arguments of a call stand between its parentheses. -/
theorem slice_args_site :
    slice site.text (site.offset + width header + 1)
      (site.offset + width header + 1 + width args) = .ok args := by
  apply slice_ok (site.behind.reverse ++ header ++ ['(']) (')' :: rest)
  · simp [Site.text, split, parenthesised?_eq_append read]
  · simp [Site.offset, Nat.add_assoc]
  · simp [Site.offset, Nat.add_assoc]

theorem slice_call_site :
    slice site.text site.offset (site.offset + width header + 1 + width args + 1) =
      .ok (header ++ '(' :: (args ++ [')'])) := by
  apply slice_ok site.behind.reverse rest
  · simp [Site.text, split, parenthesised?_eq_append read]
  · simp [Site.offset]
  · simp [Site.offset]
    omega

end

/-- The slices of a call fall between its parentheses. -/
theorem callAt_site (site : Site) {header paren : Text} (split : site.ahead = header ++ paren) :
    callAt site.text site.offset (site.offset + width header) =
      .ok (Call.ofParen? site paren) := by
  rw [callAt, matchingParen_site site split, ok_bind]
  cases read : parenthesised? paren with
  | none => simp [Call.ofParen?, read]
  | some parts =>
    obtain ⟨args, rest⟩ := parts
    simp [slice_args_site site split read, slice_call_site site split read, Call.ofParen?, read,
      split, upTo_append]

end QuestRecords.Offsets
