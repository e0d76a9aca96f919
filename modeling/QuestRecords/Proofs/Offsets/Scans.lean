import QuestRecords.Proofs.Offsets.Checked
import QuestRecords.Source.Bracket

namespace QuestRecords.Offsets

open Text Source

/-- The first offset from a given one on at which no gap stands. -/
def skipWhitespace (text : Text) (offset : Nat) : Nat :=
  match _here : byte? text offset with
  | none => offset
  | some byte => if (ascii? byte).any isGap then skipWhitespace text (offset + 1) else offset
termination_by width text - offset
decreasing_by
  have := lt_width_of_byte? _here
  omega

/-- The first offset from a given one on at which a quote stands that no backslash escapes. -/
def closingQuote? (text : Text) (quote : UInt8) (offset : Nat) : Option Nat :=
  match _here : byte? text offset with
  | none => none
  | some byte =>
    if ascii? byte = some '\\' then closingQuote? text quote (offset + 2)
    else if byte = quote then some offset
    else closingQuote? text quote (offset + 1)
termination_by width text - offset
decreasing_by
  all_goals
    have := lt_width_of_byte? _here
    omega

/-- From the offset of an opening quote, that of its closing quote. -/
def skipQuoted (text : Text) (opening : Nat) : Checked (Option Nat) := do
  let quote ← byteAt text opening
  return closingQuote? text quote (opening + 1)

theorem narrow_of_isGap (c : Char) (gap : isGap c = true) : c.utf8Size = 1 := by
  simp only [isGap, Bool.or_eq_true, beq_iff_eq] at gap
  rcases gap with (((rfl | rfl) | rfl) | rfl) | rfl <;> rfl

theorem takeWhile_append_skipGaps (text : Text) : text.takeWhile isGap ++ skipGaps text = text :=
  List.takeWhile_append_dropWhile

theorem skipWhitespace_of_end {text : Text} {offset : Nat} (ended : width text ≤ offset) :
    skipWhitespace text offset = offset := by
  rw [skipWhitespace]
  split
  · rfl
  · rename_i byte found
    have := lt_width_of_byte? found
    omega

theorem skipWhitespace_of_byte? {text : Text} {offset : Nat} {byte : UInt8}
    (found : byte? text offset = some byte) :
    skipWhitespace text offset =
      if (ascii? byte).any isGap then skipWhitespace text (offset + 1) else offset := by
  rw [skipWhitespace]
  split
  · simp_all
  · simp_all

/-- Skipping goes over exactly the gaps that stand next in the text. -/
theorem skipWhitespace_append (before rest : Text) :
    skipWhitespace (before ++ rest) (width before) = width (before ++ rest.takeWhile isGap) := by
  induction rest generalizing before with
  | nil =>
    rw [skipWhitespace_of_end (by simp), List.takeWhile_nil, List.append_nil]
  | cons c rest ih =>
    obtain ⟨byte, here, shown⟩ := exists_byte before rest c
    rw [skipWhitespace_of_byte? here, shown, any_shown? narrow_of_isGap]
    by_cases gap : isGap c = true
    · have next := ih (before ++ [c])
      simp only [List.append_assoc, List.singleton_append, width_append, width_cons, width_nil,
        narrow_of_isGap c gap] at next
      rw [if_pos gap, List.takeWhile_cons_of_pos gap, width_append, width_cons,
        narrow_of_isGap c gap]
      exact next
    · rw [if_neg gap, List.takeWhile_cons_of_neg gap, List.append_nil]

theorem skipWhitespace_site (site : Site) {header rest : Text}
    (split : site.ahead = header ++ rest) :
    skipWhitespace site.text (site.offset + width header) =
      site.offset + width (header ++ rest.takeWhile isGap) := by
  rw [site_text site split, site_offset, skipWhitespace_append, site_offset, List.append_assoc]

theorem closingQuote?_of_end {text : Text} {quote : UInt8} {offset : Nat}
    (ended : width text ≤ offset) : closingQuote? text quote offset = none := by
  rw [closingQuote?]
  split
  · rfl
  · rename_i byte found
    have := lt_width_of_byte? found
    omega

theorem closingQuote?_of_byte? {text : Text} {quote : UInt8} {offset : Nat} {byte : UInt8}
    (found : byte? text offset = some byte) :
    closingQuote? text quote offset =
      if ascii? byte = some '\\' then closingQuote? text quote (offset + 2)
      else if byte = quote then some offset
      else closingQuote? text quote (offset + 1) := by
  rw [closingQuote?]
  split
  · simp_all
  · simp_all

section

variable {quote : UInt8} {q : Char}

/-- Behind an escape the search goes on at the next character but one. -/
theorem closingQuote?_escaped (stands : ascii? quote = some q) (before rest : Text) (c : Char) :
    closingQuote? (before ++ '\\' :: c :: rest) quote (width before) =
      closingQuote? (before ++ '\\' :: c :: rest) quote (width (before ++ ['\\', c])) := by
  obtain ⟨byte, here, shown⟩ := exists_byte before (c :: rest) '\\'
  rw [closingQuote?_of_byte? here, shown, shown?_of_narrow rfl, if_pos rfl]
  have jump := pass_escaped (f := closingQuote? (before ++ '\\' :: c :: rest) quote)
    (before ++ ['\\']) rest (c := c) ?_
  · simpa using jump
  · intro offset byte found long
    have apart : byte ≠ quote := by
      rintro rfl
      simp [stands] at long
    rw [List.append_assoc, List.singleton_append] at found
    rw [closingQuote?_of_byte? found, long, if_neg (by simp), if_neg apart]

theorem closingQuote?_other (stands : ascii? quote = some q) (before rest : Text) {c : Char}
    (notEscape : c ≠ '\\') (notQuote : c ≠ q) :
    closingQuote? (before ++ c :: rest) quote (width before) =
      closingQuote? (before ++ c :: rest) quote (width (before ++ [c])) := by
  apply pass before rest
  intro offset byte found shown
  have apart : byte ≠ quote := by
    rintro rfl
    exact shown?_ne notQuote (shown.symm.trans stands)
  rw [closingQuote?_of_byte? found, shown, if_neg (shown?_ne notEscape), if_neg apart]

/-- The quote is found that ends the literal, and none where the literal has no end. -/
theorem closingQuote?_append (stands : ascii? quote = some q) (notEscape : q ≠ '\\')
    (narrow : q.utf8Size = 1) (before rest : Text) :
    (closingQuote? (before ++ rest) quote (width before)).map (· + 1) =
      (Piece.quotedTail? q rest).map fun read => width before + width read.1 := by
  fun_induction Piece.quotedTail? q rest generalizing before with
  | case1 => simp [closingQuote?_of_end]
  | case2 c rest ih =>
    have next := ih (before ++ ['\\', c])
    simp only [List.append_assoc, List.cons_append, List.nil_append] at next
    rw [closingQuote?_escaped stands, next, Option.map_map]
    congr 1
    funext read
    simp [Nat.add_assoc]
  | case3 rest noPair =>
    obtain ⟨byte, here, shown⟩ := exists_byte before rest q
    have same : byte = quote := by
      apply ascii?_injective _ stands
      rw [shown, shown?_of_narrow narrow]
    rw [closingQuote?_of_byte? here, shown, shown?_of_narrow narrow,
      if_neg (by simpa using notEscape), if_pos same]
    simp [narrow]
  | case4 c rest noPair notQuote ih =>
    by_cases escape : c = '\\'
    · cases rest with
      | nil =>
        subst escape
        obtain ⟨byte, here, shown⟩ := exists_byte before [] '\\'
        rw [closingQuote?_of_byte? here, shown, shown?_of_narrow utf8Size_escape, if_pos rfl,
          closingQuote?_of_end (by simp)]
        rfl
      | cons next rest => exact absurd rfl (noPair next rest escape)
    · have next := ih (before ++ [c])
      simp only [List.append_assoc, List.cons_append, List.nil_append] at next
      rw [closingQuote?_other stands before rest escape notQuote, next, Option.map_map]
      congr 1
      funext read
      simp [Nat.add_assoc]

end

theorem isQuote_iff {c : Char} : Piece.isQuote c = true ↔ c = '"' ∨ c = '\x27' := by
  simp [Piece.isQuote]

theorem narrow_of_isQuote (c : Char) (isQuote : Piece.isQuote c = true) : c.utf8Size = 1 := by
  rcases isQuote_iff.mp isQuote with rfl | rfl <;> rfl

/-- A scan jumps from an opening quote to where its literal ends, and finds no end where the
literal has none. -/
theorem skipQuoted_append {q : Char} (isQuote : Piece.isQuote q = true) (before rest : Text) :
    ∃ closing, skipQuoted (before ++ q :: rest) (width before) = .ok closing ∧
      closing.map (· + 1) =
        (Piece.quotedTail? q rest).map fun read => width before + width (q :: read.1) := by
  obtain ⟨quote, here, shown⟩ := exists_byte before rest q
  have narrow := narrow_of_isQuote q isQuote
  rw [shown?_of_narrow narrow] at shown
  have notEscape : q ≠ '\\' := by
    rintro rfl
    exact absurd isQuote (by decide)
  refine ⟨closingQuote? (before ++ q :: rest) quote (width before + 1), ?_, ?_⟩
  · rw [skipQuoted, byteAt_of_byte? here]
    rfl
  · have found := closingQuote?_append shown notEscape narrow (before ++ [q]) rest
    simp only [List.append_assoc, List.singleton_append, width_append, width_cons, width_nil,
      narrow, Nat.add_zero] at found
    rw [found]
    simp only [width_cons, narrow, Nat.add_assoc]

/-- A scan goes from the start of a literal to what stands behind it. -/
theorem skipQuoted_of_next? {text raw rest : Text}
    (read : Piece.next? text = some (.quoted raw, rest)) (before : Text) :
    ∃ q tail, text = q :: tail ∧ Piece.isQuote q = true ∧ ∃ closing,
      skipQuoted (before ++ text) (width before) = .ok (some closing) ∧
        closing + 1 = width (before ++ raw) := by
  cases text with
  | nil => cases read
  | cons q tail =>
    simp only [Piece.next?] at read
    split at read
    · rename_i isQuote
      obtain ⟨⟨inner, left⟩, found, same⟩ := Option.map_eq_some_iff.mp read
      cases same
      obtain ⟨closing, skipped, ends⟩ := skipQuoted_append isQuote before tail
      rw [found, Option.map_some, Option.map_eq_some_iff] at ends
      obtain ⟨closing, rfl, ends⟩ := ends
      exact ⟨q, tail, rfl, isQuote, closing, skipped, by rw [ends, width_append]⟩
    · cases read

theorem next?_eq_some_plain_iff {text rest : Text} {c : Char} :
    Piece.next? text = some (.plain c, rest) ↔ text = c :: rest ∧ Piece.isQuote c = false := by
  cases text with
  | nil => simp [Piece.next?]
  | cons first tail =>
    by_cases isQuote : Piece.isQuote first = true
    · simp only [Piece.next?, isQuote, if_true, Option.map_eq_some_iff, List.cons.injEq]
      constructor
      · rintro ⟨read, found, same⟩
        cases same
      · rintro ⟨⟨rfl, rfl⟩, notQuote⟩
        simp [isQuote] at notQuote
    · simp only [Piece.next?, isQuote, Bool.false_eq_true, if_false, Option.some.injEq,
        Prod.mk.injEq, Piece.plain.injEq, List.cons.injEq]
      constructor
      · rintro ⟨rfl, rfl⟩
        exact ⟨⟨rfl, rfl⟩, by simpa using isQuote⟩
      · rintro ⟨same, -⟩
        exact same

/-- There is no piece at the end of a text, nor at a quote for which a scan finds no end. -/
theorem skipQuoted_of_next?_none {text : Text} (missing : Piece.next? text = none)
    (before : Text) :
    text = [] ∨ ∃ q tail, text = q :: tail ∧ Piece.isQuote q = true ∧
      skipQuoted (before ++ text) (width before) = .ok none := by
  cases text with
  | nil => exact .inl rfl
  | cons q tail =>
    right
    simp only [Piece.next?] at missing
    split at missing
    · rename_i isQuote
      obtain ⟨closing, skipped, ends⟩ := skipQuoted_append isQuote before tail
      rw [Option.map_eq_none_iff.mp missing, Option.map_none, Option.map_eq_none_iff] at ends
      exact ⟨q, tail, rfl, isQuote, by rw [skipped, ends]⟩
    · cases missing

theorem le_of_closingQuote? {text : Text} {quote : UInt8} {offset closing : Nat}
    (found : closingQuote? text quote offset = some closing) : offset ≤ closing := by
  fun_induction closingQuote? text quote offset with
  | case1 => cases found
  | case2 offset byte here escape ih =>
    have := ih found
    omega
  | case3 offset here notEscape =>
    cases found
    exact Nat.le_refl _
  | case4 offset byte here notEscape notQuote ih =>
    have := ih found
    omega

theorem lt_of_skipQuoted {text : Text} {opening closing : Nat}
    (found : skipQuoted text opening = .ok (some closing)) : opening < closing := by
  unfold skipQuoted at found
  cases here : byteAt text opening with
  | error fault => simp [here, bind, Except.bind] at found
  | ok quote =>
    rw [here] at found
    exact le_of_closingQuote? (Except.ok.inj found)

end QuestRecords.Offsets
