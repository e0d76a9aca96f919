import QuestRecords.Proofs.Source.FirstDeclaration
import QuestRecords.Quest.Extraction

/-! What stands behind a member does not change where it is located. The occurrences of a name in a
beginning of a text are the first ones in the whole text, and whether an occurrence opens a body is
decided no later than at the next brace. So the text behind the brace that closes a body is never
looked at before the body is found. -/
namespace QuestRecords.Source.Member

open Text Offsets

/-- A place in a text, and what was left there to read on from, when more text stands behind. -/
def extended (tail : Text) (read : Site × Text) : Site × Text :=
  (⟨read.1.behind, read.1.ahead ++ tail⟩, read.2 ++ tail)

theorem after?_append {beginning text : Text} (fits : beginning.length ≤ text.length)
    (tail : Text) : after? beginning (text ++ tail) = (after? beginning text).map (· ++ tail) := by
  induction beginning generalizing text with
  | nil => rfl
  | cons expected beginning ih =>
    cases text with
    | nil => simp at fits
    | cons c text =>
      by_cases same : c = expected
      · simpa [after?, same] using ih (Nat.le_of_succ_le_succ fits)
      · simp [after?, same]

section

variable {name : Text}

theorem length_of_mem_occurrences {behind text : Text} {skip : Nat} {occurrence : Site × Text}
    (member : occurrence ∈ findDisjointFrom (occurrence? name) behind skip text) :
    name.length + occurrence.2.length ≤ text.length := by
  induction text generalizing behind skip with
  | nil => simp [findDisjointFrom] at member
  | cons c text ih =>
    have later {skip : Nat}
        (member : occurrence ∈ findDisjointFrom (occurrence? name) (c :: behind) skip text) :
        name.length + occurrence.2.length ≤ (c :: text).length :=
      Nat.le_succ_of_le (ih member)
    cases skip with
    | succ skip => exact later member
    | zero =>
      rw [findDisjointFrom] at member
      split at member
      · rename_i found rest read
        rcases List.mem_cons.mp member with rfl | member
        · obtain ⟨_, begins, same⟩ := Option.map_eq_some_iff.mp read
          cases same
          have whole : c :: text = name ++ rest := after?_eq_some_iff.mp begins
          exact Nat.le_of_eq (by rw [whole, List.length_append])
        · exact later member
      · exact later member

theorem occurrences_of_short {behind text : Text} {skip : Nat} (short : text.length < name.length) :
    findDisjointFrom (occurrence? name) behind skip text = [] := by
  apply List.eq_nil_iff_forall_not_mem.mpr
  intro occurrence member
  have := length_of_mem_occurrences member
  omega

/-- The occurrences of a name in a beginning of a text are its first ones in the text; each of the
others ends behind the beginning. -/
theorem findDisjointFrom_append (named : name ≠ []) (behind front tail : Text) (skip : Nat) :
    ∃ later, findDisjointFrom (occurrence? name) behind skip (front ++ tail) =
        (findDisjointFrom (occurrence? name) behind skip front).map (extended tail) ++ later ∧
      ∀ occurrence ∈ later, occurrence.2.length < tail.length := by
  have short {behind front : Text} {skip : Nat} (short : front.length < name.length) :
      ∃ later, findDisjointFrom (occurrence? name) behind skip (front ++ tail) =
          (findDisjointFrom (occurrence? name) behind skip front).map (extended tail) ++ later ∧
        ∀ occurrence ∈ later, occurrence.2.length < tail.length := by
    refine ⟨findDisjointFrom (occurrence? name) behind skip (front ++ tail), ?_, ?_⟩
    · simp [occurrences_of_short short]
    · intro occurrence member
      have := length_of_mem_occurrences member
      rw [List.length_append] at this
      omega
  induction front generalizing behind skip with
  | nil => exact short (List.length_pos_iff.mpr named)
  | cons c front ih =>
    cases skip with
    | succ skip => exact ih (c :: behind) skip
    | zero =>
      by_cases fits : (c :: front).length < name.length
      · exact short fits
      have begins := after?_append (Nat.le_of_not_lt fits) tail
      rw [List.cons_append] at begins
      cases read : after? name (c :: front) with
      | none =>
        rw [read, Option.map_none] at begins
        simpa [findDisjointFrom, occurrence?, read, begins] using ih (c :: behind) 0
      | some rest =>
        rw [read, Option.map_some] at begins
        obtain ⟨later, split, beyond⟩ := ih (c :: behind) (front.length - rest.length)
        refine ⟨later, ?_, beyond⟩
        simp [findDisjointFrom, occurrence?, read, begins, split, extended,
          Nat.add_sub_add_right]

end

theorem OpensBody.header {text body : Text} (opens : OpensBody text body) :
    ∃ header, text = header ++ '\x7b' :: body ∧ '\x7b' ∉ header ∧
      ∀ other, OpensBody (header ++ '\x7b' :: other) other := by
  obtain ⟨gaps, parameters, more, clause, rfl, gap, nested, throws⟩ := opens
  refine ⟨gaps ++ '(' :: (parameters ++ ')' :: (more ++ clause)), by simp, ?_, ?_⟩
  · have noGap : '\x7b' ∉ gaps ++ more := fun member => absurd (gap _ member) (by decide)
    have noParameter : '\x7b' ∉ parameters := fun member =>
      absurd (nested.allowed _ member) (by decide)
    have noThrows : '\x7b' ∉ clause := by
      rcases throws with rfl | ⟨-, unended⟩
      · exact List.not_mem_nil
      · exact fun member => absurd (unended _ member) (by decide)
    simp_all
  · intro other
    exact ⟨gaps, parameters, more, clause, by simp, gap, nested, throws⟩

/-- Whether a body is opened does not depend on what stands behind the next brace. -/
theorem bodyStart?_append (front tail : Text) :
    bodyStart? (front ++ '\x7b' :: tail) = (bodyStart? (front ++ ['\x7b'])).map (· ++ tail) := by
  apply Option.ext
  intro body
  rw [Option.map_eq_some_iff]
  simp only [bodyStart?_eq_some_iff]
  constructor
  · intro opens
    obtain ⟨header, split, braceless, stands⟩ := opens.header
    obtain ⟨more, rfl⟩ : header <+: front :=
      prefix_of_prefix_append_cons ⟨'\x7b' :: body, split.symm⟩ braceless
    rw [List.append_assoc] at split
    cases more with
    | nil =>
      obtain ⟨-, rfl⟩ := List.cons.inj (List.append_cancel_left split)
      exact ⟨[], by simpa using stands [], rfl⟩
    | cons c more =>
      obtain ⟨rfl, rfl⟩ := List.cons.inj (List.append_cancel_left split)
      exact ⟨more ++ ['\x7b'], by simpa using stands (more ++ ['\x7b']), by simp⟩
  · rintro ⟨left, opens, rfl⟩
    obtain ⟨header, split, -, stands⟩ := opens.header
    have whole : front ++ '\x7b' :: tail = header ++ '\x7b' :: (left ++ tail) := by
      simpa using congrArg (· ++ tail) split
    rw [whole]
    exact stands (left ++ tail)

theorem declared?_extended (occurrence : Site × Text) (tail : Text) :
    declared? (extended ('\x7b' :: tail) occurrence) =
      (declared? (extended ['\x7b'] occurrence)).map (extended tail) := by
  obtain ⟨site, rest⟩ := occurrence
  have same : isDeclared (extended ('\x7b' :: tail) (site, rest)).1 (rest ++ '\x7b' :: tail) =
      isDeclared (extended ['\x7b'] (site, rest)).1 (rest ++ ['\x7b']) := by
    cases rest <;> rfl
  simp only [extended] at same
  simp only [declared?, extended, same, bodyStart?_append rest tail]
  split
  · rename_i declared
    simp [declared, Function.comp_def, extended]
  · rename_i undeclared
    simp [undeclared]

theorem length_of_declared? {occurrence found : Site × Text}
    (declared : declared? occurrence = some found) : found.2.length < occurrence.2.length := by
  obtain ⟨-, opened⟩ := Option.ite_none_right_eq_some.mp declared
  obtain ⟨body, started, rfl⟩ := Option.map_eq_some_iff.mp opened
  obtain ⟨header, split⟩ := (bodyStart?_eq_some_iff.mp started).split
  have whole := congrArg List.length split
  rw [List.length_append, List.length_cons] at whole
  show body.length < occurrence.2.length
  omega

/-- The first declaration of a name, found in a text up to the brace that opens its body, is the
first one whatever the body is. -/
theorem findSome?_declared?_exchange {name front body : Text} (named : name ≠ []) {site : Site}
    (found : (findDisjoint (occurrence? name) (front ++ '\x7b' :: body)).findSome? declared? =
      some (site, body)) :
    ∃ header, site.ahead = header ++ body ∧ ∀ other,
      (findDisjoint (occurrence? name) (front ++ '\x7b' :: other)).findSome? declared? =
        some (⟨site.behind, header ++ other⟩, other) := by
  have searched (tail : Text) : ∃ later : List (Site × Text),
      (findDisjoint (occurrence? name) (front ++ '\x7b' :: tail)).findSome? declared? =
        (((findDisjoint (occurrence? name) front).findSome?
          (declared? ∘ extended ['\x7b'])).map (extended tail)).or (later.findSome? declared?) ∧
      ∀ occurrence ∈ later, occurrence.2.length < ('\x7b' :: tail).length := by
    obtain ⟨later, split, beyond⟩ := findDisjointFrom_append named [] front ('\x7b' :: tail) 0
    refine ⟨later, ?_, beyond⟩
    have each : declared? ∘ extended ('\x7b' :: tail) =
        fun occurrence => (declared? (extended ['\x7b'] occurrence)).map (extended tail) :=
      funext fun occurrence => declared?_extended occurrence tail
    rw [findDisjoint, split, List.findSome?_append, List.findSome?_map, each, List.map_findSome?]
    rfl
  obtain ⟨later, split, beyond⟩ := searched body
  rw [split, Option.or_eq_some_iff] at found
  rcases found with first | ⟨-, beyondFront⟩
  · obtain ⟨⟨place, left⟩, opened, same⟩ := Option.map_eq_some_iff.mp first
    obtain ⟨rfl, whole⟩ := Prod.mk.inj same
    obtain rfl : left = [] := by simpa using whole
    refine ⟨place.ahead, rfl, ?_⟩
    intro other
    obtain ⟨later, split, -⟩ := searched other
    rw [split, opened]
    rfl
  · -- What is declared behind the brace has a shorter body.
    obtain ⟨occurrence, member, declared⟩ := List.exists_of_findSome?_eq_some beyondFront
    have upper : occurrence.2.length < body.length + 1 := beyond occurrence member
    have lower : body.length < occurrence.2.length := length_of_declared? declared
    omega

/-- The declaration that was found stands in the source, with the brace that opens its body. -/
theorem exists_append_of_declared? {source name body : Text} {site : Site}
    (found : (findDisjoint (occurrence? name) source).findSome? declared? = some (site, body)) :
    ∃ header, site.ahead = header ++ '\x7b' :: body ∧
      source = site.behind.reverse ++ header ++ '\x7b' :: body := by
  obtain ⟨occurrence, member, declared⟩ := List.exists_of_findSome?_eq_some found
  obtain ⟨place, among, _, read⟩ := mem_findDisjoint member
  obtain ⟨afterName, begins, same⟩ := Option.map_eq_some_iff.mp read
  obtain ⟨rfl, -⟩ := Prod.mk.inj same
  obtain ⟨-, opened⟩ := Option.ite_none_right_eq_some.mp declared
  obtain ⟨_, started, same⟩ := Option.map_eq_some_iff.mp opened
  obtain ⟨rfl, rfl⟩ := Prod.mk.inj same
  obtain ⟨header, rfl⟩ := (bodyStart?_eq_some_iff.mp started).split
  refine ⟨name ++ header, ?_, ?_⟩
  · rw [after?_eq_some_iff.mp begins, List.append_assoc]
  · rw [← text_of_mem_sites among, Site.text, after?_eq_some_iff.mp begins]
    simp

/-- A member is located by what stands up to the brace that closes its body. -/
theorem locate?_exchange {source name : Text} {member : Member}
    (located : locate? source name = some member) :
    ∃ front after, source = front ++ '\x7b' :: (member.body ++ '\x7d' :: after) ∧
      member.stop = width (front ++ '\x7b' :: member.body) ∧
        ∀ other, locate? (front ++ '\x7b' :: (member.body ++ '\x7d' :: other)) name =
          some member := by
  have named : name ≠ [] := by
    rintro rfl
    simp [locate?] at located
  rw [locate?_eq_bind named, Option.bind_eq_some_iff] at located
  obtain ⟨⟨⟨behind, ahead⟩, body⟩, found, opened⟩ := located
  obtain ⟨text, closed, same⟩ := Option.bind_eq_some_iff.mp opened
  obtain rfl := Option.some.inj same
  obtain ⟨header, split, rfl⟩ := exists_append_of_declared? found
  obtain ⟨begun, rfl, exchanged⟩ := findSome?_declared?_exchange named found
  obtain rfl : begun = header ++ ['\x7b'] := by
    rw [List.append_cons] at split
    exact List.append_cancel_right split
  have start (other : Text) : (⟨behind, header ++ ['\x7b'] ++ other⟩ : Site).offsetAt other =
      width (behind.reverse ++ header ++ ['\x7b']) := by
    rw [Site.offsetAt_of_append rfl]
    simp [Site.offset]
  have inner : inside? bodyBraces 0 body = some text := (inside?_bodyBraces 0 body).trans closed
  obtain ⟨⟨after, rfl⟩, closes⟩ := (inside?_eq_some_iff Brackets.distinct_bodyBraces).mp inner
  refine ⟨behind.reverse ++ header, after, rfl, ?_, ?_⟩
  · simp only [start, width_append, width_cons, width_nil, Nat.add_zero, Nat.add_assoc]
  · intro other
    have inside : closedBody? 0 (text ++ '\x7d' :: other) = some text := by
      rw [← inside?_bodyBraces, inside?_eq_some_iff Brackets.distinct_bodyBraces]
      exact ⟨⟨other, rfl⟩, closes⟩
    rw [locate?_eq_bind named, exchanged, Option.bind_some]
    simp only [inside, Option.bind_some, start]

/-- A member that is located in a text is located there whatever stands behind the text, and whatever
takes the place of what stands behind its closing brace; so nothing there changes what is read from
a member of a quest. -/
theorem locate?_stable {source name : Text} {member : Member}
    (located : locate? source name = some member) :
    (∀ tail, locate? (source ++ tail) name = some member) ∧
      (∃ upTo after, source = upTo ++ '\x7d' :: after ∧ width upTo = member.stop ∧
        ∀ other, locate? (upTo ++ '\x7d' :: other) name = some member) ∧
      ∀ part : QuestMember, part.name.toList = name →
        ∀ tail, part.body? (source ++ tail) = part.body? source := by
  obtain ⟨front, after, rfl, stop, exchanged⟩ := locate?_exchange located
  have appended (tail : Text) :
      locate? (front ++ '\x7b' :: (member.body ++ '\x7d' :: after) ++ tail) name = some member := by
    simpa using exchanged (after ++ tail)
  refine ⟨appended, ⟨front ++ '\x7b' :: member.body, after, by simp, stop.symm, ?_⟩, ?_⟩
  · intro other
    simpa using exchanged other
  · rintro part rfl tail
    rw [QuestMember.body?, QuestMember.body?, appended, located]

/-- A member behind a parameter list that is never closed, and before a declaration that is cut off. -/
def cutOff : Text := "int f(int f() \x7b é \x7b \x7d \x7d int f(".toList

theorem locate?_stable_cutOff :
    ∃ member, locate? cutOff ['f'] = some member ∧ member.body = " é \x7b \x7d ".toList ∧
      locate? (cutOff ++ ") \x7b \x7d".toList) ['f'] = some member := by
  have located : locate? cutOff ['f'] = some ⟨['f'], 15, 23, " é \x7b \x7d ".toList⟩ := by
    decide +kernel
  exact ⟨_, located, rfl, (locate?_stable located).1 _⟩

end QuestRecords.Source.Member
