import QuestRecords.Proofs.Offsets.Lamps
import QuestRecords.Proofs.Source.ClosingParen
import QuestRecords.Proofs.Text.Spans

/-! Which constructor calls are found in a text: one at every occurrence of `new`, the type name and
a parenthesis that is closed, and no other. Each lies in the text where its offsets say, and the calls
come in the order of the text, those inside of other calls among them. -/
namespace QuestRecords.Source

open Text

/-- A text taken apart around the beginning of a constructor call: `new` as the end of no longer word
or member access, gaps, the type name as a whole word, and gaps up to an opening parenthesis. -/
structure CallHead (typeName : Text) where
  before : Text
  gaps : Text
  further : Text
  rest : Text
  apart : before.getLast?.any Call.continuesWord = false
  spaced : gaps ≠ []
  gap : ∀ c ∈ gaps, isGap c = true
  ended : (further ++ '(' :: rest).head?.any Call.continuesWord = false
  furtherGap : ∀ c ∈ further, isGap c = true

namespace CallHead

variable {typeName : Text} (head : CallHead typeName)

def header : Text := ['n', 'e', 'w'] ++ head.gaps ++ typeName ++ head.further

def text : Text := head.before ++ head.header ++ '(' :: head.rest

def start : Nat := width head.before

def openParen : Nat := width (head.before ++ head.header)

def site : Site := ⟨head.before.reverse, head.header ++ '(' :: head.rest⟩

theorem site_text : head.site.text = head.text := by
  rw [Site.text, site, List.reverse_reverse, text, List.append_assoc]

theorem site_offset : head.site.offset = head.start := by
  rw [Site.offset, site, width_reverse, start]

theorem openParen_eq : head.openParen = head.site.offset + width head.header := by
  rw [openParen, width_append, site_offset, start]

/-- The beginning of a call is read as one. -/
theorem header?_eq (solid : ∃ c, typeName.head? = some c ∧ isGap c = false) :
    Call.header? typeName head.site = some ('(' :: head.rest) := by
  obtain ⟨c, first, solid⟩ := solid
  obtain ⟨name, rfl⟩ := List.head?_eq_some_iff.mp first
  have behindNew : after? ['n', 'e', 'w'] head.site.ahead =
      some (head.gaps ++ (c :: name ++ (head.further ++ '(' :: head.rest))) := by
    apply after?_eq_some_iff.mpr
    simp [site, header]
  have stops : (c :: name ++ (head.further ++ '(' :: head.rest)).head?.any isGap = false := solid
  have behindGaps : skipGaps1? (head.gaps ++ (c :: name ++ (head.further ++ '(' :: head.rest))) =
      some (c :: name ++ (head.further ++ '(' :: head.rest)) := by
    rw [Offsets.skipGaps1?_eq, takeWhile_append head.gap stops, if_neg head.spaced, skipGaps,
      dropWhile_append head.gap stops]
  have opens : Offsets.parenBehindType? (head.further ++ '(' :: head.rest) =
      some ('(' :: head.rest) := by
    have paren : skipGaps (head.further ++ '(' :: head.rest) = '(' :: head.rest :=
      dropWhile_append head.furtherGap rfl
    rw [Offsets.parenBehindType?, head.ended, if_neg Bool.false_ne_true, paren]
    rfl
  have apart : head.site.behind.head?.any Call.continuesWord = false := by
    rw [site, List.head?_reverse, head.apart]
  rw [Offsets.header?_eq, apart, if_neg Bool.false_ne_true, behindNew, Option.bind_some, behindGaps,
    Option.bind_some, after?_eq_some_iff.mpr rfl, Option.bind_some, opens]

end CallHead

theorem exists_head_of_header? {typeName paren : Text} {site : Site}
    (read : Call.header? typeName site = some paren) :
    ∃ head : CallHead typeName, head.site = site ∧ '(' :: head.rest = paren := by
  rw [Offsets.header?_eq] at read
  obtain ⟨apart, read⟩ := Option.ite_none_left_eq_some.mp read
  obtain ⟨atType, gaps, read⟩ := Option.bind_eq_some_iff.mp read
  obtain ⟨afterNew, new, gaps⟩ := Option.bind_eq_some_iff.mp gaps
  obtain ⟨afterType, typed, read⟩ := Option.bind_eq_some_iff.mp read
  rw [Offsets.skipGaps1?_eq] at gaps
  obtain ⟨spaced, gaps⟩ := Option.ite_none_left_eq_some.mp gaps
  obtain ⟨ended, read⟩ := Option.ite_none_left_eq_some.mp read
  obtain ⟨opens, read⟩ := Option.ite_none_right_eq_some.mp read
  obtain ⟨rest, paren⟩ := Offsets.head?_any_beq_iff.mp opens
  cases read
  cases gaps
  have whole : afterType.takeWhile isGap ++ '(' :: rest = afterType := by
    rw [← paren, Offsets.takeWhile_append_skipGaps]
  refine ⟨⟨site.behind.reverse, afterNew.takeWhile isGap, afterType.takeWhile isGap, rest, ?_,
    spaced, passes_takeWhile isGap afterNew, ?_, passes_takeWhile isGap afterType⟩, ?_, paren.symm⟩
  · rw [List.getLast?_reverse]
    exact Bool.eq_false_iff.mpr apart
  · rw [whole]
    exact Bool.eq_false_iff.mpr ended
  · obtain ⟨behind, ahead⟩ := site
    have read := after?_eq_some_iff.mp new
    simp only [CallHead.site, CallHead.header, List.reverse_reverse, List.append_assoc, whole]
    rw [← after?_eq_some_iff.mp typed, Offsets.takeWhile_append_skipGaps, ← read]

/-- A call that lies in a text where its offsets say: behind the parenthesis that opens its arguments
and up to the one that closes it. -/
structure Call.Placed (call : Call) (text : Text) (openParen close : Nat) : Prop where
  closed : matchingParen? text openParen = some close
  argsStart : call.argsStart = openParen + 1
  stop : call.stop = close + 1
  whole : text.slice? call.start call.stop = some call.text
  args : text.slice? call.argsStart close = some call.args
  opening : text.slice? openParen call.argsStart = some ['(']
  closing : text.slice? close call.stop = some [')']

section

variable {site : Site} {header paren : Text} (split : site.ahead = header ++ paren)

include split

theorem matchingParen?_site : matchingParen? site.text (site.offset + width header) =
    (parenthesised? paren).map fun read => site.offset + width header + 1 + width read.1 := by
  have scanned := Offsets.matchingParen_site site split
  rw [Offsets.matchingParen_returns] at scanned
  exact Except.ok.inj scanned

theorem isSome_ofParen? : (Call.ofParen? site paren).isSome =
    (matchingParen? site.text (site.offset + width header)).isSome := by
  rw [matchingParen?_site split, Call.ofParen?, Option.isSome_map, Option.isSome_map]

theorem placed_of_ofParen? {call : Call} (read : Call.ofParen? site paren = some call) :
    ∃ close, call.Placed site.text (site.offset + width header) close := by
  obtain ⟨⟨args, rest⟩, closed, same⟩ := Option.map_eq_some_iff.mp read
  have matched := matchingParen?_site split
  rw [closed, Option.map_some] at matched
  have whole : site.text = site.behind.reverse ++ header ++ '(' :: (args ++ ')' :: rest) := by
    rw [Offsets.site_text site split, Offsets.parenthesised?_eq_append closed]
  have start : site.offset = width site.behind.reverse := (width_reverse site.behind).symm
  rw [split, upTo_append] at same
  subst same
  refine ⟨_, matched, rfl, rfl, Offsets.slice_eq_ok_iff.mp ?_, Offsets.slice_eq_ok_iff.mp ?_, ?_, ?_⟩
  · exact Offsets.slice_call_site site split closed
  · exact Offsets.slice_args_site site split closed
  · apply slice?_of_append (site.behind.reverse ++ header) (args ++ ')' :: rest)
    · simp [whole]
    · simp [start]
    · simp [start]
  · apply slice?_of_append (site.behind.reverse ++ header ++ '(' :: args) rest
    · simp [whole]
    · simp [start]
      omega
    · simp [start]
      omega

/-- The text of a call that is read at a place is what stands up to the parenthesis that closes it. -/
theorem exists_ofParen?_iff {text : Text} :
    (∃ call, Call.ofParen? site paren = some call ∧ call.text = text) ↔
      ∃ close pieces, ClosedBy site.text (site.offset + width header) close pieces ∧
        site.text.slice? site.offset (close + 1) = some text := by
  have whole : ∀ {call}, Call.ofParen? site paren = some call → ∃ close,
      matchingParen? site.text (site.offset + width header) = some close ∧
        site.text.slice? site.offset (close + 1) = some call.text := by
    intro call read
    obtain ⟨close, placed⟩ := placed_of_ofParen? split read
    obtain ⟨parts, -, rfl⟩ := Option.map_eq_some_iff.mp read
    have whole := placed.whole
    rw [placed.stop] at whole
    exact ⟨close, placed.closed, whole⟩
  constructor
  · rintro ⟨call, read, rfl⟩
    obtain ⟨close, closed, sliced⟩ := whole read
    obtain ⟨pieces, closed⟩ := exists_closedBy_iff.mpr closed
    exact ⟨close, pieces, closed, sliced⟩
  · rintro ⟨close, pieces, closed, sliced⟩
    have matched := exists_closedBy_iff.mp ⟨pieces, closed⟩
    have found := isSome_ofParen? split
    rw [matched] at found
    obtain ⟨call, read⟩ := Option.isSome_iff_exists.mp found
    obtain ⟨other, matched', sliced'⟩ := whole read
    cases matched.symm.trans matched'
    exact ⟨call, read, Option.some.inj (sliced'.symm.trans sliced)⟩

end

section

variable {text typeName : Text}

/-- A call that is found has a beginning in the text, and lies behind it. -/
theorem placed_of_mem_constructorCalls {call : Call}
    (member : call ∈ constructorCalls text typeName) :
    ∃ head : CallHead typeName, head.text = text ∧ head.start = call.start ∧
      ∃ close, call.Placed text head.openParen close := by
  obtain ⟨site, place, read⟩ := List.mem_filterMap.mp member
  obtain ⟨paren, header, called⟩ := Option.bind_eq_some_iff.mp read
  obtain ⟨head, rfl, rfl⟩ := exists_head_of_header? header
  have whole : head.site.text = text := Offsets.text_of_mem_sites place
  refine ⟨head, ?_, ?_, ?_⟩
  · rw [← whole, head.site_text]
  · rw [Offsets.start_of_at? read, head.site_offset]
  · rw [← whole, head.openParen_eq]
    exact placed_of_ofParen? rfl called

theorem start_le_width {call : Call} (member : call ∈ constructorCalls text typeName) :
    call.start ≤ width text := by
  obtain ⟨head, rfl, begins, -⟩ := placed_of_mem_constructorCalls member
  rw [← begins, CallHead.start, CallHead.text, List.append_assoc, width_append]
  exact Nat.le_add_right _ _

/-- The text of a call has its arguments in the first parentheses. -/
theorem text_of_mem_constructorCalls (plain : '(' ∉ typeName) {call : Call}
    (member : call ∈ constructorCalls text typeName) :
    ∃ header, '(' ∉ header ∧ call.text = header ++ '(' :: (call.args ++ [')']) := by
  obtain ⟨site, -, read⟩ := List.mem_filterMap.mp member
  obtain ⟨paren, header, called⟩ := Option.bind_eq_some_iff.mp read
  obtain ⟨head, rfl, rfl⟩ := exists_head_of_header? header
  obtain ⟨parts, -, rfl⟩ := Option.map_eq_some_iff.mp called
  refine ⟨head.header, ?_, ?_⟩
  · have closed : isGap '(' = false := rfl
    have apart : ∀ gaps : Text, (∀ c ∈ gaps, isGap c = true) → '(' ∉ gaps := by
      intro gaps gap paren
      rw [gap _ paren] at closed
      cases closed
    simp [CallHead.header, apart _ head.gap, apart _ head.furtherGap, plain]
  · show upTo (head.header ++ '(' :: head.rest) ('(' :: head.rest) ++ '(' :: (parts.1 ++ [')']) = _
    rw [upTo_append]

theorem args_eq_of_text_eq (plain : '(' ∉ typeName) {call : Call}
    (member : call ∈ constructorCalls text typeName) {otherText otherType : Text}
    (otherPlain : '(' ∉ otherType) {other : Call}
    (otherMember : other ∈ constructorCalls otherText otherType) (same : call.text = other.text) :
    call.args = other.args := by
  obtain ⟨header, apart, written⟩ := text_of_mem_constructorCalls plain member
  obtain ⟨otherHeader, otherApart, otherWritten⟩ :=
    text_of_mem_constructorCalls otherPlain otherMember
  have behind : ∀ {front : Text} (rest : Text), '(' ∉ front →
      (front ++ '(' :: rest).dropWhile (· != '(') = '(' :: rest := by
    intro front rest apart
    refine dropWhile_append ?_ rfl
    rintro c member
    exact bne_iff_ne.mpr fun paren => apart (paren ▸ member)
  have parens := congrArg (List.dropWhile (· != '(')) (written.symm.trans (same.trans otherWritten))
  rw [behind _ apart, behind _ otherApart] at parens
  exact List.append_cancel_right (List.cons.inj parens).2

/-- A call is found wherever one begins whose parenthesis is closed. -/
theorem exists_mem_constructorCalls (solid : ∃ c, typeName.head? = some c ∧ isGap c = false)
    (head : CallHead typeName) (closed : (matchingParen? head.text head.openParen).isSome = true) :
    ∃ call ∈ constructorCalls head.text typeName, call.start = head.start := by
  have same : (Call.ofParen? head.site ('(' :: head.rest)).isSome =
      (matchingParen? head.site.text (head.site.offset + width head.header)).isSome :=
    isSome_ofParen? rfl
  rw [← head.openParen_eq, head.site_text, closed] at same
  obtain ⟨call, read⟩ := Option.isSome_iff_exists.mp same
  have found : Call.at? typeName head.site = some call := by
    rw [Call.at?, head.header?_eq solid, Option.bind_some, read]
  have place : head.site ∈ sites head.text := by
    apply (mem_sites_iff head.site head.text).mpr
    exact ⟨head.site_text, List.append_ne_nil_of_right_ne_nil _ (List.cons_ne_nil _ _)⟩
  refine ⟨call, List.mem_filterMap.mpr ⟨head.site, place, found⟩, ?_⟩
  rw [Offsets.start_of_at? found, head.site_offset]

/-- Calls are found in the order in which they begin. -/
theorem starts_filterMap_sitesFrom (behind ahead : Text) :
    (((sitesFrom behind ahead).filterMap (Call.at? typeName)).map Call.start).Pairwise (· < ·) := by
  rw [List.pairwise_map]
  exact pairwise_filterMap_sitesFrom (fun _ _ => Offsets.start_of_at?) behind ahead

/-- The calls that are found in a text come in the order in which they begin, no two of them at the
same offset. One is found exactly where `new` begins a call of the type whose parenthesis is closed,
and it lies in the text where its offsets say. A search for `new` that goes on behind each occurrence
and scans over bytes finds the same calls. -/
theorem constructorCalls_exact (text typeName : Text)
    (solid : ∃ c, typeName.head? = some c ∧ isGap c = false) :
    ((constructorCalls text typeName).map Call.start).Pairwise (· < ·) ∧
    (∀ start, (∃ call ∈ constructorCalls text typeName, call.start = start) ↔
      ∃ head : CallHead typeName, head.text = text ∧ head.start = start ∧
        (matchingParen? text head.openParen).isSome = true) ∧
    (∀ call ∈ constructorCalls text typeName, ∃ head : CallHead typeName, ∃ close,
      head.text = text ∧ head.start = call.start ∧ call.Placed text head.openParen close) ∧
    Offsets.constructorCalls text typeName = .ok (constructorCalls text typeName) := by
  refine ⟨starts_filterMap_sitesFrom [] text, ?_, ?_, Offsets.constructorCalls_returns text typeName⟩
  · intro start
    constructor
    · rintro ⟨call, member, rfl⟩
      obtain ⟨head, whole, begins, close, placed⟩ := placed_of_mem_constructorCalls member
      exact ⟨head, whole, begins, by rw [placed.closed]; rfl⟩
    · rintro ⟨head, rfl, rfl, closed⟩
      exact exists_mem_constructorCalls solid head closed
  · intro call member
    obtain ⟨head, whole, begins, close, placed⟩ := placed_of_mem_constructorCalls member
    exact ⟨head, close, whole, begins, placed⟩

end

/-- A call inside of another one, behind a wide character; the end of a longer word, the beginning of
a longer type name and a parenthesis that is not closed. -/
def nestedCalls : Text :=
  "é = new K(new K(1), \"a)\"); renew K(2); new Kind(3); new\nK (4".toList

theorem constructorCalls_exact_nested :
    (constructorCalls nestedCalls ['K']).map Call.start = [5, 11] ∧
      (∃ head : CallHead ['K'], head.text = nestedCalls ∧ head.start = 11 ∧
        (matchingParen? nestedCalls head.openParen).isSome = true) ∧
      ∃ call ∈ constructorCalls nestedCalls ['K'], call.start = 5 ∧
        ∃ openParen close, call.Placed nestedCalls openParen close := by
  have starts : (constructorCalls nestedCalls ['K']).map Call.start = [5, 11] := by decide +kernel
  have found : ∀ start ∈ [5, 11], ∃ call ∈ constructorCalls nestedCalls ['K'],
      call.start = start := by
    intro start member
    rw [← starts] at member
    exact List.mem_map.mp member
  obtain ⟨-, begun, placed, -⟩ := constructorCalls_exact nestedCalls ['K'] ⟨'K', rfl, by decide⟩
  obtain ⟨outer, member, start⟩ := found 5 (by decide)
  obtain ⟨head, close, -, -, place⟩ := placed outer member
  exact ⟨starts, (begun 11).mp (found 11 (by decide)), outer, member, start, head.openParen, close,
    place⟩

end QuestRecords.Source
