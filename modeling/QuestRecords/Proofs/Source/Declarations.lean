import QuestRecords.Proofs.Text.Stretches
import QuestRecords.Source.Member

namespace QuestRecords.Source.Member

open Text

/-- A text in which a semicolon comes before any opening brace. -/
def Unopened (text : Text) : Prop := ∃ front rest, text = front ++ ';' :: rest ∧ '\x7b' ∉ front

namespace Unopened

variable {text : Text}

theorem head?_ne (unopened : Unopened text) : text.head? ≠ some '\x7b' := by
  obtain ⟨front, rest, rfl, braceless⟩ := unopened
  cases front with
  | nil => simp
  | cons c front =>
    intro opens
    cases opens
    exact braceless List.mem_cons_self

theorem tail {c : Char} (unopened : Unopened (c :: text)) (other : c ≠ ';') : Unopened text := by
  obtain ⟨front, rest, whole, braceless⟩ := unopened
  cases front with
  | nil => exact absurd (List.cons.inj whole).1 other
  | cons d front =>
    exact ⟨front, rest, (List.cons.inj whole).2, fun member =>
      braceless (List.mem_cons_of_mem d member)⟩

theorem dropWhile {test : Char → Bool} (stops : test ';' = false) (unopened : Unopened text) :
    Unopened (text.dropWhile test) := by
  induction text with
  | nil => exact unopened
  | cons c text ih =>
    rw [List.dropWhile_cons]
    by_cases passes : test c = true
    · rw [if_pos passes]
      apply ih
      apply unopened.tail
      rintro rfl
      simp [passes] at stops
    · rwa [if_neg passes]

theorem skipThrows (unopened : Unopened text) : Unopened (skipThrows text) := by
  rw [Member.skipThrows]
  split
  · exact unopened.dropWhile (by decide)
  · exact unopened

theorem afterParameters? {depth : Nat} {rest : Text} (unopened : Unopened text)
    (read : afterParameters? depth text = some rest) : Unopened rest := by
  fun_induction Member.afterParameters? depth text with
  | case1 => cases read
  | case2 depth text ih => exact ih (unopened.tail (by decide)) read
  | case3 text =>
    cases read
    exact unopened.tail (by decide)
  | case4 text depth _ ih => exact ih (unopened.tail (by decide)) read
  | case5 => cases read
  | case6 depth c text _ _ other ih =>
    exact ih (unopened.tail fun semicolon => other (.inr (.inr semicolon))) read

end Unopened

theorem bodyStart?_of_unopened {afterName : Text} (unopened : Unopened afterName) :
    bodyStart? afterName = none := by
  have gaps : isGap ';' = false := by decide
  rw [bodyStart?]
  split
  · rename_i parameters opened
    have list : Unopened ('(' :: parameters) := opened ▸ unopened.dropWhile gaps
    split
    · rename_i body brace
      obtain ⟨rest, read, same⟩ := Option.map_eq_some_iff.mp brace
      have behind := (list.tail (by decide)).afterParameters? read
      exact absurd (congrArg List.head? same) (behind.dropWhile gaps).skipThrows.head?_ne
    · rfl
  · rfl

theorem bodyStart?_of_noParen {front rest : Text} (absent : '(' ∉ front) :
    bodyStart? (front ++ '\x7b' :: rest) = none := by
  have other : ∀ parameters, skipGaps (front ++ '\x7b' :: rest) ≠ '(' :: parameters := by
    intro parameters opened
    induction front with
    | nil => exact absurd (List.cons.inj opened).1 (by decide)
    | cons c front ih =>
      rw [List.cons_append, skipGaps, List.dropWhile_cons] at opened
      split at opened
      · exact ih (fun member => absent (List.mem_cons_of_mem c member)) opened
      · exact absent ((List.cons.inj opened).1 ▸ List.mem_cons_self)
  rw [bodyStart?]
  split
  · rename_i parameters opened
    exact absurd opened (other parameters)
  · rfl

/-- No occurrence of a name that starts in a stretch, before a tail, opens a body. -/
def Bodiless (name stretch tail : Text) : Prop :=
  ∀ before after, before ++ name ++ after = stretch ++ tail → before.length < stretch.length →
    bodyStart? after = none

/-- An occurrence that starts in a stretch ends in it when a character behind the stretch does not
stand in the name. -/
theorem exists_append_of_occurrence {name stretch tail before after : Text} {d : Char}
    (absent : d ∉ name) (occurs : before ++ name ++ after = stretch ++ d :: tail)
    (starts : before.length ≤ stretch.length) :
    ∃ more, stretch = before ++ name ++ more ∧ after = more ++ d :: tail := by
  obtain ⟨left, rfl⟩ : before <+: stretch := by
    apply List.prefix_of_prefix_length_le _ (List.prefix_append stretch (d :: tail)) starts
    exact ⟨name ++ after, by rw [← occurs, List.append_assoc]⟩
  rw [List.append_assoc, List.append_assoc] at occurs
  have ahead : name ++ after = left ++ d :: tail := List.append_cancel_left occurs
  obtain ⟨more, rfl⟩ := prefix_of_prefix_append_cons ⟨after, ahead⟩ absent
  refine ⟨more, (List.append_assoc ..).symm, ?_⟩
  rw [List.append_assoc] at ahead
  exact List.append_cancel_left ahead

namespace Bodiless

variable {name stretch tail : Text}

theorem append {left right : Text} (first : Bodiless name left (right ++ tail))
    (later : Bodiless name right tail) : Bodiless name (left ++ right) tail := by
  intro before after occurs starts
  by_cases inLeft : before.length < left.length
  · exact first before after (by rw [occurs, List.append_assoc]) inLeft
  · obtain ⟨beyond, rfl⟩ : left <+: before := by
      apply List.prefix_of_prefix_length_le _ ⟨name ++ after, (List.append_assoc ..).symm⟩
        (Nat.le_of_not_lt inLeft)
      exact ⟨right ++ tail, by rw [occurs, List.append_assoc]⟩
    apply later beyond after
    · rw [List.append_assoc, List.append_assoc, List.append_assoc] at occurs
      rw [List.append_assoc]
      exact List.append_cancel_left occurs
    · rw [List.length_append, List.length_append] at starts
      omega

theorem of_append (left : Text) {right : Text} (bodiless : Bodiless name (left ++ right) tail) :
    Bodiless name right tail := by
  intro before after occurs starts
  apply bodiless (left ++ before) after
  · rw [List.append_assoc left right, ← occurs]
    simp
  · rw [List.length_append, List.length_append]
    omega

theorem of_semicolon (absent : ';' ∉ name) (braceless : '\x7b' ∉ stretch) :
    Bodiless name (stretch ++ [';']) tail := by
  intro before after occurs starts
  rw [List.length_append, List.length_singleton] at starts
  rw [List.append_assoc stretch, List.singleton_append] at occurs
  obtain ⟨more, whole, rfl⟩ :=
    exists_append_of_occurrence absent occurs (Nat.le_of_lt_succ starts)
  apply bodyStart?_of_unopened
  refine ⟨more, tail, rfl, ?_⟩
  intro member
  exact braceless (whole ▸ List.mem_append_right (before ++ name) member)

/-- Before a brace nothing is declared without a parameter list. -/
theorem of_brace (absent : '\x7b' ∉ name) (noParen : '(' ∉ stretch) :
    Bodiless name (stretch ++ ['\x7b']) tail := by
  intro before after occurs starts
  rw [List.length_append, List.length_singleton] at starts
  rw [List.append_assoc stretch, List.singleton_append] at occurs
  obtain ⟨more, whole, rfl⟩ :=
    exists_append_of_occurrence absent occurs (Nat.le_of_lt_succ starts)
  apply bodyStart?_of_noParen
  intro member
  exact noParen (whole ▸ List.mem_append_right (before ++ name) member)

theorem of_head {c : Char} (absent : c ∉ stretch) : Bodiless (c :: name) stretch tail := by
  intro before after occurs starts
  have here : c ∈ stretch := by
    have place : (stretch ++ tail)[before.length]? = some c := by simp [← occurs]
    rw [List.getElem?_append_left starts] at place
    exact List.mem_of_getElem? place
  exact absurd here absent

end Bodiless

/-- The body that an occurrence of a name opens, if it is one of a declaration. -/
def declared? (occurrence : Site × Text) : Option (Site × Text) :=
  if isDeclared occurrence.1 occurrence.2 then (bodyStart? occurrence.2).map (occurrence.1, ·)
  else none

theorem declared?_of_bodyStart? {site : Site} {afterName : Text}
    (none : bodyStart? afterName = none) : declared? (site, afterName) = .none := by
  simp [declared?, none]

/-- The search for a name comes to a declaration behind a stretch without bodies. The character
before it keeps an earlier occurrence from reaching into it. -/
theorem findSome?_declared? {name before rest : Text} {c : Char} (named : name ≠ [])
    (absent : c ∉ name) (bodiless : Bodiless name (before ++ [c]) (name ++ rest)) {behind : Text}
    {found : Site × Text}
    (declared : declared? (⟨c :: (before.reverse ++ behind), name ++ rest⟩, rest) = some found)
    {skip : Nat} (short : skip ≤ before.length) :
    (findDisjointFrom (occurrence? name) behind skip (before ++ c :: (name ++ rest))).findSome?
      declared? = some found := by
  obtain ⟨n, others, rfl⟩ := List.exists_cons_of_ne_nil named
  -- What an earlier occurrence makes the search skip ends before `c`, so the place is come to.
  induction before generalizing behind skip with
  | nil =>
    have other : c ≠ n := fun same => absent (same ▸ List.mem_cons_self)
    have unread : occurrence? (n :: others) ⟨behind, c :: (n :: others ++ rest)⟩ = none := by
      rw [occurrence?, after?, if_neg other, Option.map_none]
    have here : occurrence? (n :: others) ⟨c :: behind, n :: (others ++ rest)⟩ =
        some ((⟨c :: behind, n :: (others ++ rest)⟩, rest), rest) := by
      rw [occurrence?, after?_eq_some_iff.mpr (List.cons_append ..).symm, Option.map_some]
    have last : declared? (⟨c :: behind, n :: (others ++ rest)⟩, rest) = some found := declared
    cases Nat.le_zero.mp short
    rw [List.nil_append, findDisjointFrom, unread]
    dsimp only
    rw [List.cons_append, findDisjointFrom, here]
    dsimp only
    rw [List.findSome?_cons, last]
  | cons d before ih =>
    have later : Bodiless (n :: others) (before ++ [c]) (n :: others ++ rest) :=
      Bodiless.of_append [d] bodiless
    have last : declared? (⟨c :: (before.reverse ++ d :: behind), n :: others ++ rest⟩, rest) =
        some found := by
      simpa using declared
    rw [List.cons_append]
    cases skip with
    | succ skip =>
      rw [findDisjointFrom]
      exact ih (Nat.le_of_succ_le_succ short) later last
    | zero =>
      rw [findDisjointFrom]
      cases read : occurrence? (n :: others)
          ⟨behind, d :: (before ++ c :: (n :: others ++ rest))⟩ with
      | none => exact ih (Nat.zero_le _) later last
      | some occurrence =>
        obtain ⟨after, begins, rfl⟩ := Option.map_eq_some_iff.mp read
        have occurs : [] ++ n :: others ++ after = d :: before ++ c :: (n :: others ++ rest) :=
          (after?_eq_some_iff.mp begins).symm
        obtain ⟨more, whole, rfl⟩ := exists_append_of_occurrence absent occurs (Nat.zero_le _)
        have silent : bodyStart? (more ++ c :: (n :: others ++ rest)) = none := by
          apply bodiless [] _ _ (by simp)
          rw [occurs]
          simp
        dsimp only
        rw [List.findSome?_cons, declared?_of_bodyStart? silent]
        refine ih ?_ later last
        have length := congrArg List.length whole
        simp only [List.length_append, List.length_cons, List.length_nil] at length ⊢
        omega

theorem closedBody?_append {body : Text} (opening : '\x7b' ∉ body) (closing : '\x7d' ∉ body)
    (rest : Text) : closedBody? 0 (body ++ '\x7d' :: rest) = some body := by
  induction body with
  | nil => rfl
  | cons c body ih =>
    obtain ⟨notOpening, noOpening⟩ := not_or.mp (mt List.mem_cons.mpr opening)
    obtain ⟨notClosing, noClosing⟩ := not_or.mp (mt List.mem_cons.mpr closing)
    rw [List.cons_append, closedBody?, if_neg (Ne.symm notOpening), if_neg (Ne.symm notClosing),
      ih noOpening noClosing, Option.map_some]

theorem locate?_eq_bind {source name : Text} (named : name ≠ []) :
    locate? source name =
      ((findDisjoint (occurrence? name) source).findSome? declared?).bind fun opened =>
        (closedBody? 0 opened.2).bind fun text =>
          some ⟨name, opened.1.offsetAt opened.2, opened.1.offsetAt opened.2 + width text, text⟩ := by
  rw [locate?, if_neg named]
  rfl

/-- The body of a member is that of its declaration, up to the brace that closes it. -/
theorem body_locate? {source name : Text} (named : name ≠ []) :
    (locate? source name).map (·.body) =
      ((findDisjoint (occurrence? name) source).findSome? declared?).bind fun opened =>
        closedBody? 0 opened.2 := by
  rw [locate?_eq_bind named, Option.map_bind]
  congr 1
  funext opened
  cases ended : closedBody? 0 opened.2 <;> simp [ended]

/-- The body of a member is located behind a stretch without bodies and a return type. -/
theorem locate?_eq {name front rest body after : Text} {c : Char} (named : name ≠ [])
    (absent : c ∉ name) (apart : isNameChar c = false)
    (bodiless : Bodiless name (front ++ [c]) (name ++ rest))
    (typed : followsReturnType (c :: front.reverse) = true)
    (ends : rest.head?.any isNameChar = false)
    (starts : bodyStart? rest = some (body ++ '\x7d' :: after))
    (opening : '\x7b' ∉ body) (closing : '\x7d' ∉ body) :
    (locate? (front ++ c :: (name ++ rest)) name).map (·.body) = some body := by
  have declared : declared? (⟨c :: (front.reverse ++ []), name ++ rest⟩, rest) =
      some (⟨c :: (front.reverse ++ []), name ++ rest⟩, body ++ '\x7d' :: after) := by
    simp [declared?, isDeclared, apart, ends, typed, starts]
  have found : (findDisjoint (occurrence? name) (front ++ c :: (name ++ rest))).findSome? declared? =
      some (⟨c :: (front.reverse ++ []), name ++ rest⟩, body ++ '\x7d' :: after) :=
    findSome?_declared? named absent bodiless declared (Nat.zero_le _)
  rw [body_locate? named, found, Option.bind_some]
  exact closedBody?_append opening closing after

end QuestRecords.Source.Member
