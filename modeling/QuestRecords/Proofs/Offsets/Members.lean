import QuestRecords.Proofs.Offsets.Balanced
import QuestRecords.Proofs.Offsets.Calls

namespace QuestRecords.Offsets

open Text Source

/-- Whether the byte at an offset, if there is one, shows a character that passes a test. -/
def precedes (test : Char → Bool) (text : Text) (stop : Nat) : Checked Bool :=
  if width text ≤ stop then return false
  else do return (ascii? (← byteAt text stop)).any test

/-- Whether a name between two offsets is a word of its own. -/
def isNameBoundary (source : Text) (start stop : Nat) : Checked Bool := do
  let before ← follows Member.isNameChar source start
  let behind ← precedes Member.isNameChar source stop
  return !before && !behind

/-- The offset behind the last byte that passes a test. -/
def behindLast (test : UInt8 → Bool) : List UInt8 → Nat
  | [] => 0
  | byte :: rest =>
    if behindLast test rest = 0 then if test byte then 1 else 0 else behindLast test rest + 1

def precededByReturnType (text : Text) : Checked Bool := do
  let trimmed := trimEnd text
  match (bytes trimmed).getLast? with
  | none => return false
  | some last =>
    if ascii? last = some '>' ∨ ascii? last = some ']' then return true
    if !(ascii? last).any Member.isNameChar then return false
    let wordStart := behindLast (fun byte => !(ascii? byte).any Member.isNameChar) (bytes trimmed)
    return !Member.callKeywords.contains (← sliceFrom trimmed wordStart)

/-- The offset of the opening brace that stands at an offset or behind a `throws` clause there. -/
def braceBehind (source : Text) (behind : Nat) : Checked (Option Nat) := do
  if (after? "throws".toList (← sliceFrom source behind)).isSome then
    match find? Member.isClauseEnd (← sliceFrom source behind) with
    | none => return none
    | some length =>
      return if holds source (length + behind) '\x7b' then some (length + behind) else none
  else return if holds source behind '\x7b' then some behind else none

/-- The offset of the brace that opens the body of a member whose name ends at an offset. -/
def bodyOpenBrace (source : Text) (nameEnd : Nat) : Checked (Option Nat) := do
  let openParen := skipWhitespace source nameEnd
  if !holds source openParen '(' then return none
  match ← balancedFrom parameterList source 0 openParen with
  | none => return none
  | some close => braceBehind source (skipWhitespace source (close + 1))

def matchingCloseBrace (source : Text) (openBrace : Nat) : Checked (Option Nat) :=
  if openBrace ≤ width source then balancedFrom bodyBraces source 0 openBrace else .error .index

/-- The member whose body opens with the brace at an offset. -/
def bodyFrom (source name : Text) (openBrace : Nat) : Checked (Option Member) := do
  match ← matchingCloseBrace source openBrace with
  | none => return none
  | some closeBrace =>
    let body ← slice source (openBrace + 1) closeBrace
    return some { name, start := openBrace + 1, stop := closeBrace, body }

/-- The member whose name stands at an offset. There is nothing when no declaration stands there,
and nothing inside when its body is not closed. -/
def memberAt (source name : Text) (index : Nat) : Checked (Option (Option Member)) := do
  let nameEnd := index + width name
  if !(← isNameBoundary source index nameEnd) then return none
  if !(← precededByReturnType (← slice source 0 index)) then return none
  match ← bodyOpenBrace source nameEnd with
  | none => return none
  | some openBrace => return some (← bodyFrom source name openBrace)

def locate (source name : Text) : Checked (Option Member) := do
  if name = [] then return none
  return (← firstSome (memberAt source name) (occurrences source name)).join

theorem narrow_of_isNameChar (c : Char) (inName : Member.isNameChar c = true) :
    c.utf8Size = 1 := by
  simp only [Member.isNameChar, Bool.or_eq_true, beq_iff_eq] at inName
  rcases inName with (alphanumeric | rfl) | rfl
  · exact narrow_of_isAlphanum alphanumeric
  all_goals rfl

theorem precedes_eq (test : Char → Bool) (text : Text) (stop : Nat) :
    precedes test text stop = .ok (shows test text stop) := by
  rw [precedes, shows]
  cases found : byte? text stop with
  | none => rw [if_pos (byte?_eq_none_iff.mp found)]; rfl
  | some byte =>
    rw [if_neg (Nat.not_le.mpr (lt_width_of_byte? found)), byteAt_of_byte? found]
    rfl

theorem isNameBoundary_site {header rest : Text} (site : Site)
    (split : site.ahead = header ++ rest) :
    isNameBoundary site.text site.offset (site.offset + width header) =
      .ok (!site.behind.head?.any Member.isNameChar && !rest.head?.any Member.isNameChar) := by
  rw [isNameBoundary, follows_site narrow_of_isNameChar, precedes_eq,
    shows_site site split narrow_of_isNameChar]
  rfl

theorem behindLast_eq_zero {test : UInt8 → Bool} {values : List UInt8}
    (fail : ∀ byte ∈ values, test byte = false) : behindLast test values = 0 := by
  induction values with
  | nil => rfl
  | cons byte rest ih =>
    have none_behind := ih (fun other member => fail other (List.mem_cons_of_mem _ member))
    simp [behindLast, none_behind, fail byte List.mem_cons_self]

theorem behindLast_append {test : UInt8 → Bool} {front back : List UInt8}
    (fail : ∀ byte ∈ back, test byte = false)
    (last : ∀ byte, front.getLast? = some byte → test byte = true) :
    behindLast test (front ++ back) = front.length := by
  induction front with
  | nil => exact behindLast_eq_zero fail
  | cons byte front ih =>
    cases front with
    | nil =>
      have passed := last byte rfl
      simp [behindLast, behindLast_eq_zero fail, passed]
    | cons next front =>
      have later := ih (fun other found => last other (by simpa using found))
      rw [List.cons_append, behindLast, later]
      simp

theorem test_bytes {test : Char → Bool} (narrow : ∀ c, test c = true → c.utf8Size = 1)
    {text : Text} {result : Bool} (all : ∀ c ∈ text, test c = result) {byte : UInt8}
    (member : byte ∈ bytes text) : (ascii? byte).any test = result := by
  obtain ⟨c, among, inside⟩ := List.mem_flatMap.mp member
  rw [ascii?_of_mem inside, any_shown? narrow, all c among]

theorem mem_of_getLast?_bytes {text : Text} {c : Char} {byte : UInt8}
    (last : (bytes (text ++ [c])).getLast? = some byte) : byte ∈ String.utf8EncodeChar c := by
  have filled : String.utf8EncodeChar c ≠ [] := by
    intro empty
    have length := String.length_utf8EncodeChar c
    have positive := c.utf8Size_pos
    rw [empty] at length
    simp at length
    omega
  have tail : bytes [c] = String.utf8EncodeChar c := List.append_nil _
  have some_last := List.getLast?_eq_some_getLast filled
  rw [bytes_append, tail, List.getLast?_append, some_last, Option.some_or] at last
  exact Option.some.inj last ▸ List.getLast_mem filled

theorem behindLast_word (front word : Text) (inWord : ∀ c ∈ word, Member.isNameChar c = true)
    (ended : ∀ c, front.head? = some c → Member.isNameChar c = false) :
    behindLast (fun byte => !(ascii? byte).any Member.isNameChar)
      (bytes (front.reverse ++ word)) = width front.reverse := by
  rw [bytes_append, ← length_bytes]
  apply behindLast_append
  · intro byte member
    simp [test_bytes narrow_of_isNameChar inWord member]
  · intro byte last
    cases front with
    | nil => cases last
    | cons c front =>
      rw [List.reverse_cons] at last
      rw [ascii?_of_mem (mem_of_getLast?_bytes last), any_shown? narrow_of_isNameChar,
        ended c rfl]
      rfl

/-- The slice of the last word starts between two characters. -/
theorem precededByReturnType_reverse (behind : Text) :
    precededByReturnType behind.reverse = .ok (Member.followsReturnType behind) := by
  have trimmed : trimEnd behind.reverse = (behind.dropWhile isBlank).reverse := by
    rw [trimEnd, List.reverse_reverse]
  rw [precededByReturnType, trimmed, Member.followsReturnType]
  cases behind.dropWhile isBlank with
  | nil => rfl
  | cons c rest =>
    have wordStart := behindLast_word ((c :: rest).dropWhile Member.isNameChar)
      ((c :: rest).takeWhile Member.isNameChar).reverse ?_ ?_
    · have split : ((c :: rest).dropWhile Member.isNameChar).reverse ++
          ((c :: rest).takeWhile Member.isNameChar).reverse = (c :: rest).reverse := by
        rw [← List.reverse_append, List.takeWhile_append_dropWhile]
      have word := sliceFrom_append ((c :: rest).dropWhile Member.isNameChar).reverse
        ((c :: rest).takeWhile Member.isNameChar).reverse
      rw [split] at wordStart word
      cases last : (bytes (c :: rest).reverse).getLast? with
      | none =>
        have empty := congrArg List.length (List.getLast?_eq_none_iff.mp last)
        have := c.utf8Size_pos
        simp only [length_bytes, width_reverse, width_cons, List.length_nil] at empty
        omega
      | some byte =>
        have shown : ascii? byte = shown? c := by
          rw [List.reverse_cons] at last
          exact ascii?_of_mem (mem_of_getLast?_bytes last)
        simp only [shown, shown?_eq_iff (show '>'.utf8Size = 1 from rfl),
          shown?_eq_iff (show ']'.utf8Size = 1 from rfl), any_shown? narrow_of_isNameChar,
          wordStart, word, ok_bind, pure_eq_ok]
        by_cases generic : c = '>' ∨ c = ']'
        · rcases generic with rfl | rfl <;> rfl
        · obtain ⟨notAngle, notBracket⟩ := not_or.mp generic
          by_cases inName : Member.isNameChar c = true
          · simp [notAngle, notBracket, inName]
          · simp [notAngle, notBracket, inName]
    · intro d member
      exact List.all_eq_true.mp List.all_takeWhile d (List.mem_reverse.mp member)
    · intro d found
      have ended := List.head?_dropWhile_not Member.isNameChar (c :: rest)
      rw [found] at ended
      exact ended

theorem braceBehind_append (before rest : Text) :
    ∃ clause, rest = clause ++ Member.skipThrows rest ∧
      braceBehind (before ++ rest) (width before) =
        .ok (if (Member.skipThrows rest).head?.any (· == '\x7b') then
          some (width (before ++ clause)) else none) := by
  by_cases throws : (after? "throws".toList rest).isSome = true
  · refine ⟨rest.takeWhile (!Member.isClauseEnd ·), ?_, ?_⟩
    · rw [Member.skipThrows, if_pos throws, List.takeWhile_append_dropWhile]
    · rw [braceBehind, sliceFrom_append, ok_bind, if_pos throws, ok_bind, find?_eq,
        Member.skipThrows, if_pos throws]
      by_cases endless : rest.dropWhile (!Member.isClauseEnd ·) = []
      · rw [if_pos endless, endless]
        rfl
      · have stop : width (rest.takeWhile (!Member.isClauseEnd ·)) + width before =
            width (before ++ rest.takeWhile (!Member.isClauseEnd ·)) := by
          rw [width_append, Nat.add_comm]
        have brace : holds (before ++ rest)
            (width (before ++ rest.takeWhile (!Member.isClauseEnd ·))) '\x7b' =
              (rest.dropWhile (!Member.isClauseEnd ·)).head?.any (· == '\x7b') := by
          rw [← holds_append rfl, List.append_assoc, List.takeWhile_append_dropWhile]
        rw [if_neg endless]
        simp only [stop, brace]
        rfl
  · refine ⟨[], ?_, ?_⟩
    · rw [Member.skipThrows, if_neg throws, List.nil_append]
    · rw [braceBehind, sliceFrom_append, ok_bind, if_neg throws, holds_append rfl,
        Member.skipThrows, if_neg throws, List.append_nil]
      rfl

theorem bodyStart?_eq (afterName : Text) :
    Member.bodyStart? afterName =
      if (skipGaps afterName).head?.any (· == '(') then
        (Member.afterParameters? 0 (skipGaps afterName).tail).bind fun rest =>
          if (Member.skipThrows (skipGaps rest)).head?.any (· == '\x7b') then
            some (Member.skipThrows (skipGaps rest)).tail
          else none
      else none := by
  rw [Member.bodyStart?]
  cases opened : skipGaps afterName with
  | nil => rfl
  | cons c parameters =>
    by_cases opens : c = '('
    · subst opens
      cases listed : Member.afterParameters? 0 parameters with
      | none => simp [listed]
      | some rest =>
        cases clause : Member.skipThrows (skipGaps rest) with
        | nil => simp [listed, clause]
        | cons d body =>
          by_cases brace : d = '\x7b'
          · subst brace
            simp [listed, clause]
          · simp [listed, clause, brace]
    · simp [opens]

/-- The scan over a parameter list stops at the parenthesis that reading stops behind. -/
theorem parameterList_append (before parameters : Text) :
    (Member.afterParameters? 0 parameters = none ∧
      balancedFrom parameterList (before ++ '(' :: parameters) 0 (width before) = .ok none) ∨
    ∃ inner left, Member.afterParameters? 0 parameters = some left ∧
      parameters = inner ++ ')' :: left ∧
      balancedFrom parameterList (before ++ '(' :: parameters) 0 (width before) =
        .ok (some (width (before ++ '(' :: inner))) := by
  have closed := balancedFrom_opening narrow_parameterList before parameters
  rw [parameterList_opening] at closed
  rw [closed, afterParameters?_eq]
  cases read : inside? parameterList 0 parameters with
  | none => exact .inl ⟨rfl, rfl⟩
  | some inner =>
    obtain ⟨left, split⟩ := exists_append_of_inside? read
    rw [parameterList_closing] at split
    have behind : parameters.drop (inner.length + 1) = left := by
      rw [split, ← List.singleton_append, ← List.append_assoc]
      exact List.drop_left' (by simp)
    have close : width before + 1 + width inner = width (before ++ '(' :: inner) := by
      simp only [width_append, width_cons, utf8Size_openParen]
      omega
    exact .inr ⟨inner, left, by rw [Option.map_some, behind], split, by rw [Option.map_some, close]⟩

/-- Behind a name the scan finds the brace that reading finds. -/
theorem bodyOpenBrace_append (before afterName : Text) :
    (Member.bodyStart? afterName = none ∧
      bodyOpenBrace (before ++ afterName) (width before) = .ok none) ∨
    ∃ inside body, Member.bodyStart? afterName = some body ∧
      afterName = inside ++ '\x7b' :: body ∧
      bodyOpenBrace (before ++ afterName) (width before) =
        .ok (some (width (before ++ inside))) := by
  have behindGaps : before ++ afterName =
      before ++ afterName.takeWhile isGap ++ skipGaps afterName := by
    rw [List.append_assoc, takeWhile_append_skipGaps]
  have paren : holds (before ++ afterName) (width (before ++ afterName.takeWhile isGap)) '(' =
      (skipGaps afterName).head?.any (· == '(') := by
    rw [behindGaps, holds_append rfl]
  rw [bodyStart?_eq, bodyOpenBrace, skipWhitespace_append, paren]
  by_cases opens : (skipGaps afterName).head?.any (· == '(') = true
  · obtain ⟨parameters, same⟩ := head?_any_beq_iff.mp opens
    have list := parameterList_append (before ++ afterName.takeWhile isGap) parameters
    rw [← same, ← behindGaps] at list
    rw [same] at opens
    simp only [opens, same, List.tail_cons]
    rcases list with ⟨unread, unclosed⟩ | ⟨inner, left, read, split, closed⟩
    · left
      simp only [unread, unclosed]
      exact ⟨rfl, rfl⟩
    · obtain ⟨front, fronted⟩ : ∃ front, front =
          afterName.takeWhile isGap ++ '(' :: (inner ++ [')']) := ⟨_, rfl⟩
      have whole : afterName = front ++ left := by
        rw [fronted, List.append_assoc, List.cons_append, List.append_assoc, List.singleton_append,
          ← split, ← same, takeWhile_append_skipGaps]
      have close : width (before ++ afterName.takeWhile isGap ++ '(' :: inner) + 1 =
          width (before ++ front) := by
        simp only [fronted, width_append, width_cons, width_nil, utf8Size_closeParen]
        omega
      have skipped : skipWhitespace (before ++ afterName) (width (before ++ front)) =
          width (before ++ front ++ left.takeWhile isGap) := by
        rw [whole, ← List.append_assoc, skipWhitespace_append]
      have behindList : before ++ afterName =
          before ++ front ++ left.takeWhile isGap ++ skipGaps left := by
        rw [List.append_assoc _ _ (skipGaps left), takeWhile_append_skipGaps, whole,
          List.append_assoc]
      obtain ⟨clause, ends, found⟩ :=
        braceBehind_append (before ++ front ++ left.takeWhile isGap) (skipGaps left)
      rw [← behindList] at found
      simp only [closed, read, ok_bind, Option.bind_some, close, skipped, found]
      by_cases brace : (Member.skipThrows (skipGaps left)).head?.any (· == '\x7b') = true
      · obtain ⟨body, started⟩ := head?_any_beq_iff.mp brace
        right
        refine ⟨front ++ left.takeWhile isGap ++ clause, body, ?_, ?_, ?_⟩
        · simp [started]
        · rw [List.append_assoc, ← started, ← ends, List.append_assoc, takeWhile_append_skipGaps,
            whole]
        · simp [brace]
      · left
        simp [brace]
  · left
    simp [opens]

/-- The member that reading finds behind an occurrence of its name. -/
def declared? (name : Text) (site : Site) (afterName : Text) : Option (Option Member) :=
  if Member.isDeclared site afterName then
    (Member.bodyStart? afterName).map fun body => (Member.closedBody? 0 body).map fun text =>
      { name, start := site.offsetAt body, stop := site.offsetAt body + width text, body := text }
  else none

/-- The slice of a body falls between its braces. -/
theorem bodyFrom_append (name before body : Text) :
    bodyFrom (before ++ '\x7b' :: body) name (width before) =
      .ok ((Member.closedBody? 0 body).map fun text =>
        { name
          start := width before + 1
          stop := width before + 1 + width text
          body := text }) := by
  have closed := balancedFrom_opening narrow_bodyBraces before body
  rw [bodyBraces_opening] at closed
  have inRange : width before ≤ width (before ++ '\x7b' :: body) := by
    rw [width_append]
    omega
  rw [bodyFrom, matchingCloseBrace, if_pos inRange, closed, ok_bind, ← inside?_bodyBraces]
  cases read : inside? bodyBraces 0 body with
  | none => rfl
  | some text =>
    obtain ⟨rest, split⟩ := exists_append_of_inside? read
    have cut : slice (before ++ '\x7b' :: body) (width before + 1)
        (width before + 1 + width text) = .ok text := by
      apply slice_ok (before ++ ['\x7b']) (bodyBraces.closing :: rest)
      · simp [split]
      · simp
      · simp
    simp [cut]

theorem memberAt_site {name afterName : Text} (site : Site)
    (split : site.ahead = name ++ afterName) :
    memberAt site.text name site.offset = .ok (declared? name site afterName) := by
  have cut : slice site.text 0 site.offset = .ok site.behind.reverse :=
    slice_ok [] _ rfl rfl (by rw [width_reverse, width_nil, Nat.zero_add, Site.offset])
  simp only [memberAt, isNameBoundary_site site split, ok_bind, cut, precededByReturnType_reverse,
    declared?, Member.isDeclared, ← Bool.not_or]
  by_cases longer : (site.behind.head?.any Member.isNameChar ||
      afterName.head?.any Member.isNameChar) = true
  · simp [longer]
  by_cases untyped : Member.followsReturnType site.behind = false
  · simp [untyped]
  have typed : Member.followsReturnType site.behind = true := by
    simpa using untyped
  rcases bodyOpenBrace_append (site.behind.reverse ++ name) afterName with
    ⟨unread, found⟩ | ⟨inside, body, read, whole, found⟩
  · rw [← site_text site split, ← site_offset] at found
    simp [longer, typed, unread, found]
  · rw [← site_text site split, ← site_offset] at found
    have ahead : site.ahead = name ++ inside ++ ['\x7b'] ++ body := by
      simp [split, whole]
    have start : width (site.behind.reverse ++ name ++ inside) + 1 = site.offsetAt body := by
      rw [Site.offsetAt, ahead, upTo_append, Site.offset]
      simp [Nat.add_assoc]
    have text : site.text = site.behind.reverse ++ name ++ inside ++ '\x7b' :: body := by
      simp [Site.text, split, whole]
    have member := bodyFrom_append name (site.behind.reverse ++ name ++ inside) body
    rw [← text, start] at member
    simp only [found, ok_bind, member, read]
    simp [longer, typed]

/-- The member of a body that starts behind a place. -/
def closed? (name : Text) (site : Site) (body : Text) : Option Member :=
  (Member.closedBody? 0 body).map fun text =>
    { name, start := site.offsetAt body, stop := site.offsetAt body + width text, body := text }

/-- The first declaration decides, whether its body is closed or not. -/
theorem locate?_eq (source name : Text) :
    Member.locate? source name =
      if name = [] then none
      else ((findDisjoint (Member.occurrence? name) source).findSome? fun found =>
        declared? name found.1 found.2).join := by
  have each : ∀ found : Site × Text, declared? name found.1 found.2 =
      (if Member.isDeclared found.1 found.2 then
        (Member.bodyStart? found.2).map (found.1, ·) else none).map fun started =>
          closed? name started.1 started.2 := by
    intro found
    by_cases isDeclared : Member.isDeclared found.1 found.2 = true
    · rw [declared?, if_pos isDeclared, if_pos isDeclared, Option.map_map]
      rfl
    · rw [declared?, if_neg isDeclared, if_neg isDeclared]
      rfl
  by_cases unnamed : name = []
  · simp [Member.locate?, unnamed]
  rw [if_neg unnamed, Member.locate?, if_neg unnamed]
  have mapped := List.map_findSome? (l := findDisjoint (Member.occurrence? name) source)
    (f := fun found => if Member.isDeclared found.1 found.2 then
      (Member.bodyStart? found.2).map (found.1, ·) else none)
    (g := fun started => closed? name started.1 started.2)
  simp only [Function.comp_def] at mapped
  simp only [each, ← mapped]
  cases ((findDisjoint (Member.occurrence? name) source).findSome? fun found =>
    if Member.isDeclared found.1 found.2 then
      (Member.bodyStart? found.2).map (found.1, ·) else none) with
  | none => rfl
  | some started =>
    simp only [Option.bind_eq_bind, Option.bind_some, Option.map_some, Option.join_some, closed?]
    cases Member.closedBody? 0 started.2 with
    | none => rfl
    | some text => rfl

/-- Locating a member by offsets never fails and finds the same body. -/
theorem locate_returns (source name : Text) :
    locate source name = .ok (Member.locate? source name) := by
  rw [locate, locate?_eq]
  by_cases unnamed : name = []
  · rw [if_pos unnamed, if_pos unnamed]
    rfl
  have each : ∀ found ∈ findDisjoint (Member.occurrence? name) source,
      memberAt source name found.1.offset = .ok (declared? name found.1 found.2) := by
    intro found member
    obtain ⟨site, place, rest, read⟩ := mem_findDisjoint member
    obtain ⟨afterName, named, same⟩ := Option.map_eq_some_iff.mp read
    cases same
    rw [← text_of_mem_sites place]
    exact memberAt_site site (after?_eq_some_iff.mp named)
  rw [if_neg unnamed, if_neg unnamed, occurrences, firstSome_map, firstSome_ok each]
  rfl

end QuestRecords.Offsets
