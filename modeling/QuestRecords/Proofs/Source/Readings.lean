import QuestRecords.Proofs.Offsets.Calls
import QuestRecords.Proofs.Source.AssignedObjects

namespace QuestRecords.Source

open Text Reader

def joins (sign c : Char) : Bool := isWord c || isBlank c || c == sign

/-- A text that may be passed in reading a name, a sign and words behind it. -/
def Joined (sign : Char) (passed : Text) : Prop := ∀ c ∈ passed, joins sign c = true

namespace Joined

variable {sign : Char}

theorem append {first later : Text} (before : Joined sign first) (behind : Joined sign later) :
    Joined sign (first ++ later) :=
  List.forall_mem_append.mpr ⟨before, behind⟩

theorem of_blanks {blanks : Text} (blank : ∀ c ∈ blanks, isBlank c = true) :
    Joined sign blanks := by
  intro c member
  simp [joins, blank c member]

theorem of_words {word : Text} (words : ∀ c ∈ word, isWord c = true) : Joined sign word := by
  intro c member
  simp [joins, words c member]

end Joined

/-- What is passed up to what follows a name, a sign, and the blanks around the sign. -/
theorem passed_of_spacedChar? {text name afterName afterSign : Text} {sign : Char}
    (solid : isBlank sign = false) (named : name? text = some (name, afterName))
    (signed : spacedChar? sign afterName = some afterSign) :
    ∃ passed, text = passed ++ skipBlanks afterSign ∧ sign ∈ passed ∧ Joined sign passed := by
  obtain ⟨rfl, isName, -⟩ := name?_eq_some_iff.mp named
  obtain ⟨before, rfl, blank⟩ := (spacedChar?_eq_some_iff solid).mp signed
  generalize ended : skipBlanks afterSign = rest
  obtain ⟨behind, rfl, blank', -⟩ := skipBlanks_eq_iff.mp ended
  have sole : Joined sign [sign] := by simp [Joined, joins]
  refine ⟨name ++ before ++ [sign] ++ behind, by simp, by simp, ?_⟩
  exact (((Joined.of_words isName.words).append (.of_blanks blank)).append sole).append
    (.of_blanks blank')

theorem passed_of_assigned? {site : Site} {name rest : Text}
    (read : assigned? site = some (name, rest)) :
    ∃ passed, site.ahead = passed ++ rest ∧ '=' ∈ passed ∧ Joined '=' passed := by
  rw [assigned?] at read
  obtain ⟨-, read⟩ := Option.ite_none_left_eq_some.mp read
  obtain ⟨⟨found, afterName⟩, named, read⟩ := Option.bind_eq_some_iff.mp read
  obtain ⟨afterEquals, equals, same⟩ := Option.bind_eq_some_iff.mp read
  cases same
  exact passed_of_spacedChar? (by decide) named equals

theorem passed_of_methodCall? {method : String} (words : ∀ c ∈ method.toList, isWord c = true)
    {site : Site} {paren : Text} (read : methodCall? method site = some paren) :
    ∃ passed, passed <+: site.ahead ∧ '.' ∈ passed ∧ method.toList <:+: passed ∧
      Joined '.' passed := by
  rw [methodCall?] at read
  obtain ⟨-, read⟩ := Option.ite_none_left_eq_some.mp read
  obtain ⟨⟨found, afterName⟩, named, read⟩ := Option.bind_eq_some_iff.mp read
  obtain ⟨afterDot, dot, read⟩ := Option.bind_eq_some_iff.mp read
  obtain ⟨afterMethod, called, -⟩ := Option.bind_eq_some_iff.mp read
  obtain ⟨passed, whole, sign, joined⟩ := passed_of_spacedChar? (by decide) named dot
  refine ⟨passed ++ method.toList, ⟨afterMethod, ?_⟩, List.mem_append_left _ sign,
    (List.suffix_append passed _).isInfix, joined.append (.of_words words)⟩
  rw [whole, after?_eq_some_iff.mp called, List.append_assoc]

theorem passed_of_newOfAny? {typeNames : List String}
    (words : ∀ typeName ∈ typeNames, ∀ c ∈ typeName.toList, isWord c = true) {text paren : Text}
    (read : newOfAny? typeNames text = some paren) :
    ∃ passed, text = passed ++ paren ∧ (∃ typeName ∈ typeNames, typeName.toList <:+: passed) ∧
      Joined '=' passed := by
  obtain ⟨afterNew, new, read⟩ := Option.bind_eq_some_iff.mp read
  obtain ⟨typed, blanks, read⟩ := Option.bind_eq_some_iff.mp read
  obtain ⟨typeName, among, read⟩ := List.exists_of_findSome?_eq_some read
  obtain ⟨rest, named, read⟩ := Option.bind_eq_some_iff.mp read
  have opened : skipBlanks rest = paren := by
    split at read
    · rename_i same
      cases read
      exact same
    · cases read
  obtain ⟨before, rfl, -, blank, -⟩ := skipBlanks1?_eq_some_iff.mp blanks
  obtain ⟨behind, rfl, blank', -⟩ := skipBlanks_eq_iff.mp opened
  refine ⟨"new".toList ++ before ++ typeName.toList ++ behind, ?_, ⟨typeName, among, ?_⟩, ?_⟩
  · rw [after?_eq_some_iff.mp new, after?_eq_some_iff.mp named]
    simp
  · exact ⟨"new".toList ++ before, behind, rfl⟩
  · have new : ∀ c ∈ "new".toList, isWord c = true := List.all_eq_true.mp (by decide +kernel)
    exact (((Joined.of_words new).append (.of_blanks blank)).append
      (.of_words (words typeName among))).append (.of_blanks blank')

section

variable {α : Type} {read : Site → Option α} {behind stretch tail : Text} {d : Char}

theorem foundIn_of_noEquals
    (assigns : ∀ site found, read site = some found → (assigned? site).isSome = true)
    (stops : joins '=' d = false) (absent : '=' ∉ stretch) :
    foundIn read behind stretch (d :: tail) = [] := by
  apply foundIn_of_mark ('=' ∈ ·)
  · intro site found result
    obtain ⟨⟨name, rest⟩, assigned⟩ := Option.isSome_iff_exists.mp (assigns site found result)
    obtain ⟨passed, whole, sign, joined⟩ := passed_of_assigned? assigned
    refine ⟨passed, ⟨rest, whole.symm⟩, ?_, sign⟩
    intro member
    simp [joined d member] at stops
  · intro part inside sign
    exact absent (inside.subset sign)

theorem foundIn_of_noType {typeName : String} (words : ∀ c ∈ typeName.toList, isWord c = true)
    (assigns : ∀ site found, read site = some found → (assignment? typeName site).isSome = true)
    (stops : joins '=' d = false) (absent : ¬ typeName.toList <:+: stretch) :
    foundIn read behind stretch (d :: tail) = [] := by
  apply foundIn_of_mark (typeName.toList <:+: ·)
  · intro site found result
    obtain ⟨⟨name, paren⟩, read⟩ := Option.isSome_iff_exists.mp (assigns site found result)
    obtain ⟨⟨name, rest⟩, assigned, read⟩ := Option.bind_eq_some_iff.mp read
    obtain ⟨paren, new, -⟩ := Option.bind_eq_some_iff.mp read
    obtain ⟨passed, whole, -, joined⟩ := passed_of_assigned? assigned
    obtain ⟨more, others, ⟨_, sole, typed⟩, joined'⟩ :=
      passed_of_newOfAny? (by simpa using words) new
    cases List.mem_singleton.mp sole
    refine ⟨passed ++ more, ⟨paren, by rw [whole, others, List.append_assoc]⟩, ?_, ?_⟩
    · intro member
      simp [joined.append joined' d member] at stops
    · exact typed.trans (List.suffix_append passed more).isInfix
  · intro part inside typed
    exact absent (typed.trans inside)

end

namespace Call

theorem passed_of_at? {typeName : Text} {site : Site} {call : Call}
    (read : at? typeName site = some call) :
    ∃ gaps, gaps ≠ [] ∧ (∀ c ∈ gaps, isGap c = true) ∧
      "new".toList ++ gaps ++ typeName <+: site.ahead := by
  obtain ⟨paren, header, -⟩ := Option.bind_eq_some_iff.mp read
  rw [Offsets.header?_eq] at header
  obtain ⟨-, header⟩ := Option.ite_none_left_eq_some.mp header
  obtain ⟨atType, gaps, header⟩ := Option.bind_eq_some_iff.mp header
  obtain ⟨afterNew, new, gaps⟩ := Option.bind_eq_some_iff.mp gaps
  obtain ⟨afterType, typed, -⟩ := Option.bind_eq_some_iff.mp header
  rw [Offsets.skipGaps1?_eq] at gaps
  obtain ⟨filled, gaps⟩ := Option.ite_none_left_eq_some.mp gaps
  cases gaps
  refine ⟨afterNew.takeWhile isGap, filled, List.all_eq_true.mp List.all_takeWhile, afterType, ?_⟩
  rw [List.append_assoc, ← after?_eq_some_iff.mp typed, List.append_assoc,
    Offsets.takeWhile_append_skipGaps]
  exact (after?_eq_some_iff.mp new).symm

variable {typeName behind stretch tail : Text} {d : Char}

/-- No call starts in a stretch in which the word `new`, a gap and the name of the type do not stand
behind each other. -/
theorem foundIn_at?_eq_nil (stops : d ∉ "new".toList ++ typeName ∧ isGap d = false)
    (absent : ∀ gaps, gaps ≠ [] → (∀ c ∈ gaps, isGap c = true) →
      ¬ "new".toList ++ gaps ++ typeName <:+: stretch) :
    foundIn (at? typeName) behind stretch (d :: tail) = [] := by
  apply foundIn_of_mark fun passed => ∃ gaps, gaps ≠ [] ∧ (∀ c ∈ gaps, isGap c = true) ∧
    passed = "new".toList ++ gaps ++ typeName
  · intro site call read
    obtain ⟨gaps, filled, gap, begins⟩ := passed_of_at? read
    refine ⟨_, begins, ?_, gaps, filled, gap, rfl⟩
    intro member
    obtain ⟨unworded, noGap⟩ := stops
    rw [List.mem_append, List.mem_append] at member
    rw [List.mem_append, not_or] at unworded
    rcases member with (new | inGaps) | typed
    · exact unworded.1 new
    · simp [gap d inGaps] at noGap
    · exact unworded.2 typed
  · rintro part inside ⟨gaps, filled, gap, rfl⟩
    exact absent gaps filled gap inside

theorem foundIn_at?_of_noType (stops : d ∉ "new".toList ++ typeName ∧ isGap d = false)
    (absent : ¬ typeName <:+: stretch) : foundIn (at? typeName) behind stretch (d :: tail) = [] :=
  foundIn_at?_eq_nil stops fun _ _ _ inside =>
    absent ((List.suffix_append _ typeName).isInfix.trans inside)

theorem foundIn_at?_of_noGap (stops : d ∉ "new".toList ++ typeName ∧ isGap d = false)
    (absent : ∀ c ∈ stretch, isGap c = false) :
    foundIn (at? typeName) behind stretch (d :: tail) = [] := by
  apply foundIn_at?_eq_nil stops
  intro gaps filled gap inside
  obtain ⟨c, gaps, rfl⟩ := List.exists_cons_of_ne_nil filled
  have apart := absent c (inside.subset (by simp))
  simp [gap c List.mem_cons_self] at apart

/-- No call starts before a gap that its type would have to follow. -/
theorem foundIn_at?_of_lastGap (stops : d ∉ "new".toList ++ typeName ∧ isGap d = false)
    (absent : ∀ c ∈ stretch, isGap c = false) (named : typeName ≠ []) {gap : Char}
    (solid : gap ∉ typeName) :
    foundIn (at? typeName) behind (stretch ++ [gap]) (d :: tail) = [] := by
  apply foundIn_at?_eq_nil stops
  intro gaps filled gapped inside
  rcases List.infix_concat_iff.mp inside with ends | inside
  · rcases List.suffix_concat_iff.mp ends with none | ⟨front, same, -⟩
    · cases none
    · obtain ⟨beginning, last, rfl⟩ := (List.eq_nil_or_concat typeName).resolve_left named
      rw [List.concat_eq_append] at solid same
      rw [← List.append_assoc] at same
      rw [List.append_inj_right' same rfl] at solid
      exact solid (List.mem_append_right beginning List.mem_cons_self)
  · obtain ⟨c, gaps, rfl⟩ := List.exists_cons_of_ne_nil filled
    have apart := absent c (inside.subset (by simp))
    simp [gapped c List.mem_cons_self] at apart

theorem foundIn_at?_of_noNew (stops : d ∉ "new".toList ++ typeName ∧ isGap d = false)
    (absent : ¬ "new".toList <:+: stretch) :
    foundIn (at? typeName) behind stretch (d :: tail) = [] :=
  foundIn_at?_eq_nil stops fun gaps _ _ inside => by
    rw [List.append_assoc] at inside
    exact absent ((List.prefix_append _ (gaps ++ typeName)).isInfix.trans inside)

/-- No call starts at a character that the word `new` does not start with. -/
theorem at?_of_head {c : Char} (other : c ≠ 'n') (ahead : Text) :
    at? typeName ⟨behind, c :: ahead⟩ = none := by
  have unread : after? ['n', 'e', 'w'] (c :: ahead) = none := if_neg other
  rw [at?, Offsets.header?_eq, unread]
  simp

theorem foundIn_at?_of_noN (absent : 'n' ∉ stretch) :
    foundIn (at? typeName) behind stretch tail = [] :=
  foundIn_of_heads fun _ member _ ahead => at?_of_head (ne_of_mem_of_not_mem member absent) ahead

end Call
end QuestRecords.Source
