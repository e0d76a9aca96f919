import QuestRecords.Proofs.Offsets.Members
import QuestRecords.Proofs.Source.Declarations
import QuestRecords.Proofs.Source.Identifiers
import QuestRecords.Proofs.Source.NestedBrackets
import QuestRecords.Proofs.Source.Suffixes
import QuestRecords.Proofs.Text.Spans

/-! Which declaration of a member counts. Of all places at which its name is declared with a body
the first one decides, and only that one: its body is what stands up to the brace that closes it,
and a body that is never closed leaves the member without one, whatever follows. -/
namespace QuestRecords.Source.Member

open Text Offsets

/-- A text that ends, blanks aside, in a return type: in the end of type arguments or of an array
type, or in a whole word that is none of those before calls. -/
def EndsInReturnType (text : Text) : Prop :=
  ∃ front token blanks, text = front ++ token ++ blanks ∧ (∀ c ∈ blanks, isBlank c = true) ∧
    (token = ['>'] ∨ token = [']'] ∨
      token ≠ [] ∧ (∀ c ∈ token, isNameChar c = true) ∧
        front.getLast?.any isNameChar = false ∧ token ∉ callKeywords)

/-- Nothing, or what stands from the word `throws` up to a brace or a semicolon. -/
def ThrowsClause (clause : Text) : Prop :=
  clause = [] ∨ "throws".toList <+: clause ∧ ∀ c ∈ clause, isClauseEnd c = false

/-- A text that starts, gaps aside, with a parameter list in parentheses, perhaps a `throws` clause,
and the brace before a body. -/
def OpensBody (text body : Text) : Prop :=
  ∃ gaps parameters more clause,
    text = gaps ++ '(' :: (parameters ++ ')' :: (more ++ clause ++ '\x7b' :: body)) ∧
      (∀ c ∈ gaps ++ more, isGap c = true) ∧ parameterList.Nested parameters ∧ ThrowsClause clause

theorem OpensBody.split {text body : Text} (opens : OpensBody text body) :
    ∃ header, text = header ++ '\x7b' :: body := by
  obtain ⟨gaps, parameters, more, clause, rfl, -, -, -⟩ := opens
  exact ⟨gaps ++ '(' :: (parameters ++ ')' :: (more ++ clause)), by simp⟩

/-- A declaration of a name in a source, by what stands before and behind it. -/
structure Declares (source name before afterName body : Text) : Prop where
  stands : source = before ++ name ++ afterName
  startsWord : before.getLast?.any isNameChar = false
  endsWord : afterName.head?.any isNameChar = false
  typed : EndsInReturnType before
  opens : OpensBody afterName body

theorem isBlank_of_isNameChar {c : Char} (inName : isNameChar c = true) : isBlank c = false := by
  rw [isNameChar, Bool.or_eq_true, beq_iff_eq] at inName
  rcases inName with part | rfl
  · exact isBlank_of_isIdentifierPart part
  · decide

section

variable {text body : Text}

theorem endsInReturnType_of_follows (typed : followsReturnType text.reverse = true) :
    EndsInReturnType text := by
  have blank : ∀ c ∈ (text.reverse.takeWhile isBlank).reverse, isBlank c = true := fun c member =>
    passes_takeWhile isBlank _ c (List.mem_reverse.mp member)
  have split : text = (text.reverse.dropWhile isBlank).reverse ++
      (text.reverse.takeWhile isBlank).reverse := by
    rw [← List.reverse_append, List.takeWhile_append_dropWhile, List.reverse_reverse]
  rw [followsReturnType] at typed
  cases ahead : text.reverse.dropWhile isBlank with
  | nil =>
    rw [ahead] at typed
    cases typed
  | cons c rest =>
    rw [ahead] at typed split
    simp only [Bool.or_eq_true, beq_iff_eq, Bool.and_eq_true] at typed
    rcases typed with (rfl | rfl) | ⟨inName, other⟩
    · exact ⟨rest.reverse, ['>'], _, by rw [← List.reverse_cons]; exact split, blank, .inl rfl⟩
    · exact ⟨rest.reverse, [']'], _, by rw [← List.reverse_cons]; exact split, blank,
        .inr (.inl rfl)⟩
    · refine ⟨((c :: rest).dropWhile isNameChar).reverse,
        ((c :: rest).takeWhile isNameChar).reverse, _, ?_, blank, .inr (.inr ⟨?_, ?_, ?_, ?_⟩)⟩
      · rw [← List.reverse_append, List.takeWhile_append_dropWhile]
        exact split
      · simp [inName]
      · intro d member
        exact passes_takeWhile isNameChar _ d (List.mem_reverse.mp member)
      · rw [List.getLast?_reverse]
        exact stops_dropWhile isNameChar _
      · simpa using other

theorem follows_of_endsInReturnType (typed : EndsInReturnType text) :
    followsReturnType text.reverse = true := by
  obtain ⟨front, token, blanks, rfl, blank, token⟩ := typed
  have skipped {c : Char} {rest : Text} (visible : isBlank c = false) :
      (blanks.reverse ++ c :: rest).dropWhile isBlank = c :: rest :=
    dropWhile_append (fun d member => blank d (List.mem_reverse.mp member)) visible
  rw [List.reverse_append, List.reverse_append, followsReturnType]
  rcases token with rfl | rfl | ⟨filled, inName, ended, other⟩
  · rw [List.reverse_singleton, List.singleton_append, skipped (by decide)]
    rfl
  · rw [List.reverse_singleton, List.singleton_append, skipped (by decide)]
    rfl
  · obtain ⟨c, rest, same⟩ := List.exists_cons_of_ne_nil (List.reverse_ne_nil_iff.mpr filled)
    have word : ((token.reverse ++ front.reverse).takeWhile isNameChar).reverse = token := by
      rw [takeWhile_append (fun d member => inName d (List.mem_reverse.mp member))
        (by rw [List.head?_reverse]; exact ended), List.reverse_reverse]
    have first : isNameChar c = true := inName c (List.mem_reverse.mp (same ▸ List.mem_cons_self))
    rw [same, List.cons_append] at word ⊢
    rw [skipped (isBlank_of_isNameChar first)]
    dsimp only
    rw [word, first, Bool.true_and, Bool.or_eq_true]
    right
    simpa using other

theorem followsReturnType_reverse_iff :
    followsReturnType text.reverse = true ↔ EndsInReturnType text :=
  ⟨endsInReturnType_of_follows, follows_of_endsInReturnType⟩

theorem skipGaps_append {gaps rest : Text} (gap : ∀ c ∈ gaps, isGap c = true)
    (stops : rest.head?.any isGap = false) : skipGaps (gaps ++ rest) = rest :=
  dropWhile_append gap stops

theorem exists_gaps (text : Text) :
    ∃ gaps, text = gaps ++ skipGaps text ∧ ∀ c ∈ gaps, isGap c = true :=
  ⟨text.takeWhile isGap, (takeWhile_append_skipGaps text).symm, passes_takeWhile isGap text⟩

theorem afterParameters?_eq_some_iff {rest : Text} :
    afterParameters? 0 text = some rest ↔
      ∃ parameters, text = parameters ++ ')' :: rest ∧ parameterList.Nested parameters := by
  rw [afterParameters?_eq, Option.map_eq_some_iff]
  constructor
  · rintro ⟨parameters, read, rfl⟩
    obtain ⟨⟨left, rfl⟩, nested⟩ := (inside?_eq_some_iff Brackets.distinct_parameterList).mp read
    refine ⟨parameters, ?_, nested⟩
    simp
  · rintro ⟨parameters, rfl, nested⟩
    refine ⟨parameters, (inside?_eq_some_iff Brackets.distinct_parameterList).mpr
      ⟨⟨rest, rfl⟩, nested⟩, ?_⟩
    simp

theorem skipThrows_eq_brace_iff :
    skipThrows text = '\x7b' :: body ↔
      ∃ clause, text = clause ++ '\x7b' :: body ∧ ThrowsClause clause := by
  rw [skipThrows]
  constructor
  · intro opened
    split at opened
    · rename_i throws
      obtain ⟨rest, begins⟩ := Option.isSome_iff_exists.mp throws
      have split : text = text.takeWhile (!isClauseEnd ·) ++ '\x7b' :: body := by
        rw [← opened, List.takeWhile_append_dropWhile]
      refine ⟨text.takeWhile (!isClauseEnd ·), split, .inr ⟨?_, ?_⟩⟩
      · have starts : "throws".toList <+: text.takeWhile (!isClauseEnd ·) ++ '\x7b' :: body :=
          ⟨rest, by rw [← split, after?_eq_some_iff.mp begins]⟩
        exact prefix_of_prefix_append_cons starts (by decide)
      · intro c member
        simpa using passes_takeWhile (!isClauseEnd ·) text c member
    · exact ⟨[], opened, .inl rfl⟩
  · rintro ⟨clause, rfl, rfl | ⟨⟨types, rfl⟩, unended⟩⟩
    · rfl
    · have throws : after? "throws".toList ("throws".toList ++ types ++ '\x7b' :: body) =
          some (types ++ '\x7b' :: body) :=
        after?_eq_some_iff.mpr (List.append_assoc ..)
      rw [throws, Option.isSome_some, if_pos rfl]
      apply dropWhile_append
      · intro c member
        rw [unended c member]
        rfl
      · rfl

theorem bodyStart?_eq_some_iff : bodyStart? text = some body ↔ OpensBody text body := by
  have steps : bodyStart? text = some body ↔ ∃ listed rest, skipGaps text = '(' :: listed ∧
      afterParameters? 0 listed = some rest ∧ skipThrows (skipGaps rest) = '\x7b' :: body := by
    constructor
    · intro started
      rw [bodyStart?] at started
      split at started
      · rename_i listed opened
        split at started
        · rename_i body' read
          cases started
          obtain ⟨rest, read, brace⟩ := Option.map_eq_some_iff.mp read
          exact ⟨listed, rest, opened, read, brace⟩
        · cases started
      · cases started
    · rintro ⟨listed, rest, opened, read, brace⟩
      simp [bodyStart?, opened, read, brace]
  rw [steps]
  constructor
  · rintro ⟨listed, rest, opened, read, brace⟩
    obtain ⟨gaps, split, gap⟩ := exists_gaps text
    obtain ⟨parameters, rfl, nested⟩ := afterParameters?_eq_some_iff.mp read
    obtain ⟨more, behind, gap'⟩ := exists_gaps rest
    obtain ⟨clause, clausal, throws⟩ := skipThrows_eq_brace_iff.mp brace
    refine ⟨gaps, parameters, more, clause, ?_, List.forall_mem_append.mpr ⟨gap, gap'⟩, nested,
      throws⟩
    rw [List.append_assoc, ← clausal, ← behind, ← opened, ← split]
  · rintro ⟨gaps, parameters, more, clause, rfl, gap, nested, throws⟩
    obtain ⟨gap, gap'⟩ := List.forall_mem_append.mp gap
    refine ⟨_, _, skipGaps_append gap rfl, afterParameters?_eq_some_iff.mpr
      ⟨parameters, rfl, nested⟩, ?_⟩
    have visible : (clause ++ '\x7b' :: body).head?.any isGap = false := by
      rcases throws with rfl | ⟨⟨types, rfl⟩, -⟩
      · rfl
      · rfl
    rw [List.append_assoc, skipGaps_append gap' visible]
    exact skipThrows_eq_brace_iff.mpr ⟨clause, rfl, throws⟩

end

/-- The declaration of a name that starts at a place: the place, and what follows its brace. -/
def declaredAt? (name : Text) (site : Site) : Option (Site × Text) :=
  (after? name site.ahead).bind fun afterName => declared? (site, afterName)

theorem isDeclared_iff {before ahead afterName : Text} :
    isDeclared ⟨before.reverse, ahead⟩ afterName = true ↔
      before.getLast?.any isNameChar = false ∧ afterName.head?.any isNameChar = false ∧
        EndsInReturnType before := by
  rw [isDeclared, ← followsReturnType_reverse_iff, List.head?_reverse]
  simp [and_assoc]

theorem declaredAt?_eq_some_iff {name before ahead : Text} {found : Site × Text} :
    declaredAt? name ⟨before.reverse, ahead⟩ = some found ↔
      ∃ afterName body, ahead = name ++ afterName ∧ found = (⟨before.reverse, ahead⟩, body) ∧
        Declares (before ++ ahead) name before afterName body := by
  rw [declaredAt?, Option.bind_eq_some_iff]
  constructor
  · rintro ⟨afterName, read, found⟩
    obtain ⟨isDeclared, opened⟩ := Option.ite_none_right_eq_some.mp found
    obtain ⟨startsWord, endsWord, typed⟩ := isDeclared_iff.mp isDeclared
    obtain ⟨body, started, rfl⟩ := Option.map_eq_some_iff.mp opened
    obtain rfl := after?_eq_some_iff.mp read
    exact ⟨afterName, body, rfl, rfl, (List.append_assoc ..).symm, startsWord, endsWord, typed,
      bodyStart?_eq_some_iff.mp started⟩
  · rintro ⟨afterName, body, rfl, rfl, declares⟩
    have declared : isDeclared ⟨before.reverse, name ++ afterName⟩ afterName = true :=
      isDeclared_iff.mpr ⟨declares.startsWord, declares.endsWord, declares.typed⟩
    refine ⟨afterName, after?_eq_some_iff.mpr rfl, ?_⟩
    rw [declared?, if_pos declared, bodyStart?_eq_some_iff.mpr declares.opens, Option.map_some]

theorem Declares.declaredAt? {source name before afterName body : Text}
    (declares : Declares source name before afterName body) :
    declaredAt? name ⟨before.reverse, name ++ afterName⟩ =
      some (⟨before.reverse, name ++ afterName⟩, body) := by
  apply declaredAt?_eq_some_iff.mpr
  refine ⟨afterName, body, rfl, rfl, ?_⟩
  rw [← List.append_assoc, ← declares.stands]
  exact declares

/-- The character before a place within a name stands in the name. -/
theorem exists_last_seen (c : Char) (seen others : Text) (within : seen ⊆ others)
    {behind : Text} : ∃ d ∈ c :: others, (seen.reverse ++ c :: behind).head? = some d := by
  cases last : seen.getLast? with
  | none =>
    refine ⟨c, List.mem_cons_self, ?_⟩
    rw [List.getLast?_eq_none_iff.mp last]
    rfl
  | some d =>
    refine ⟨d, List.mem_cons_of_mem c (within (List.mem_of_getLast? last)), ?_⟩
    rw [List.head?_append, List.head?_reverse, last]
    rfl

section

variable {name : Text} (solid : ∀ c ∈ name, isBlank c = false ∧ c ≠ '>' ∧ c ≠ ']')

include solid

/-- No declaration starts behind a character of a name: it goes on with a word, or it ends no
type. -/
theorem declaredAt?_behind {site : Site} {d : Char} (member : d ∈ name)
    (behind : site.behind.head? = some d) : declaredAt? name site = none := by
  obtain ⟨visible, notAngle, notBracket⟩ := solid d member
  obtain ⟨rest, same⟩ : ∃ rest, site.behind = d :: rest := by
    cases shown : site.behind with
    | nil => simp [shown] at behind
    | cons c rest =>
      rw [shown] at behind
      cases behind
      exact ⟨rest, rfl⟩
  have undeclared (afterName : Text) : isDeclared site afterName = false := by
    rw [isDeclared, followsReturnType, same, List.dropWhile_cons_of_neg (by simp [visible])]
    by_cases inName : isNameChar d = true
    · simp [inName]
    · simp [inName, notAngle, notBracket]
  rw [declaredAt?, Option.bind_eq_none_iff]
  intro afterName _
  rw [declared?, undeclared, if_neg Bool.false_ne_true]

/-- Going on behind each occurrence of a name misses no declaration of it. -/
theorem findSome?_disjoint (behind text : Text) (skip : Nat)
    (clear : ∀ size < skip, ∃ d ∈ name, ((text.take size).reverse ++ behind).head? = some d) :
    (findDisjointFrom (occurrence? name) behind skip text).findSome? declared? =
      (sitesFrom behind text).findSome? (declaredAt? name) := by
  induction text generalizing behind skip with
  | nil => rfl
  | cons c ahead ih =>
    rw [sitesFrom, List.findSome?_cons]
    cases skip with
    | succ skip =>
      obtain ⟨d, member, first⟩ := clear 0 (Nat.succ_pos skip)
      rw [findDisjointFrom, declaredAt?_behind solid member first]
      apply ih
      intro size below
      obtain ⟨d, member, first⟩ := clear (size + 1) (Nat.succ_lt_succ below)
      exact ⟨d, member, by simpa using first⟩
    | zero =>
      cases read : after? name (c :: ahead) with
      | none =>
        have missing : occurrence? name ⟨behind, c :: ahead⟩ = none := by
          rw [occurrence?, read, Option.map_none]
        rw [findDisjointFrom, missing, declaredAt?, read, Option.bind_none]
        apply ih
        intro size below
        exact absurd below (Nat.not_lt_zero size)
      | some afterName =>
        have found : occurrence? name ⟨behind, c :: ahead⟩ =
            some ((⟨behind, c :: ahead⟩, afterName), afterName) := by
          rw [occurrence?, read, Option.map_some]
        have later : (findDisjointFrom (occurrence? name) (c :: behind)
            (ahead.length - afterName.length) ahead).findSome? declared? =
              (sitesFrom (c :: behind) ahead).findSome? (declaredAt? name) := by
          apply ih
          intro size below
          have split : c :: ahead = name ++ afterName := after?_eq_some_iff.mp read
          cases name with
          | nil =>
            rw [List.nil_append] at split
            rw [← split, List.length_cons, Nat.sub_eq_zero_of_le (Nat.le_succ _)] at below
            exact absurd below (Nat.not_lt_zero size)
          | cons n others =>
            obtain ⟨rfl, rest⟩ := List.cons.inj split
            rw [List.append_eq] at rest
            rw [rest, List.length_append, Nat.add_sub_cancel] at below
            rw [rest, List.take_append_of_le_length (Nat.le_of_lt below)]
            exact exists_last_seen c (others.take size) others (List.take_subset size others)
        rw [findDisjointFrom, found]
        dsimp only
        rw [List.findSome?_cons, later, declaredAt?, read, Option.bind_some]

theorem locate?_eq_first (named : name ≠ []) (source : Text) :
    locate? source name =
      (findFirst? (declaredAt? name) source).bind fun opened =>
        (inside? bodyBraces 0 opened.2).map fun text =>
          ⟨name, opened.1.offsetAt opened.2, opened.1.offsetAt opened.2 + width text, text⟩ := by
  have disjoint : (findDisjoint (occurrence? name) source).findSome? declared? =
      findFirst? (declaredAt? name) source :=
    findSome?_disjoint solid [] source 0 fun size below => absurd below (Nat.not_lt_zero size)
  simp only [locate?_eq_bind named, disjoint, inside?_bodyBraces, Option.map_eq_bind]
  rfl

end

/-- The leftmost declaration of a name decides, for a name without blanks and brackets that end a
type, such as an identifier. There is a member exactly when the braces of its body are even once
before a closing one, and it is what stands up to the first such brace. -/
theorem locate?_first_declaration {source name : Text} (named : name ≠ [])
    (solid : ∀ c ∈ name, isBlank c = false ∧ c ≠ '>' ∧ c ≠ ']') :
    (∀ before afterName body, ¬ Declares source name before afterName body) ∧
        locate? source name = none ∨
      ∃ before afterName body, Declares source name before afterName body ∧
        (∀ other afterOther bodyOther, Declares source name other afterOther bodyOther →
          before <+: other) ∧
        ((locate? source name).isSome = true ↔ ∃ inner rest, body = inner ++ '\x7d' :: rest ∧
          inner.count '\x7b' = inner.count '\x7d') ∧
        ∀ member, locate? source name = some member → member.name = name ∧
          ∃ front rest, source = front ++ '\x7b' :: (member.body ++ '\x7d' :: rest) ∧
            body = member.body ++ '\x7d' :: rest ∧ member.start = width front + 1 ∧
            member.stop = member.start + width member.body ∧ bodyBraces.Nested member.body := by
  have read := locate?_eq_first solid named source
  cases first : findFirst? (declaredAt? name) source with
  | none =>
    left
    refine ⟨?_, by rw [read, first, Option.bind_none]⟩
    intro before afterName body declares
    have silent := findFirst?_eq_none_iff.mp first before (name ++ afterName)
      (by rw [← List.append_assoc, ← declares.stands]) (by simp [named])
    rw [declares.declaredAt?] at silent
    cases silent
  | some found =>
    right
    obtain ⟨before, ahead, rfl, here, leftmost⟩ := findSome?_sitesFrom_leftmost first
    rw [List.append_nil] at here
    obtain ⟨afterName, body, rfl, rfl, declares⟩ := declaredAt?_eq_some_iff.mp here
    obtain ⟨header, opened⟩ := declares.opens.split
    rw [first, Option.bind_some] at read
    dsimp only at read
    refine ⟨before, afterName, body, declares, ?_, ?_, ?_⟩
    · intro other afterOther bodyOther also
      apply leftmost other (name ++ afterOther)
      · rw [also.stands, List.append_assoc]
      · simp [named]
      · rw [List.append_nil, also.declaredAt?]
        rfl
    · rw [read, Option.isSome_map, isSome_inside?_iff Brackets.distinct_bodyBraces]
      simp only [show ∀ c, bodyBraces.excluded c = false from fun _ => rfl, implies_true, true_and]
      rfl
    · intro member located
      rw [read, Option.map_eq_some_iff] at located
      obtain ⟨text, enclosed, same⟩ := located
      cases same
      obtain ⟨⟨rest, rfl⟩, nested⟩ := (inside?_eq_some_iff Brackets.distinct_bodyBraces).mp enclosed
      refine ⟨rfl, before ++ name ++ header, rest, ?_, rfl, ?_, rfl, nested⟩
      · rw [List.append_assoc, List.append_assoc, opened]
        rfl
      · have ahead : name ++ afterName =
            name ++ (header ++ ['\x7b']) ++ (text ++ '\x7d' :: rest) := by
          simp [opened]
        rw [Site.offsetAt_of_append ahead, Site.offset, width_reverse]
        simp [Nat.add_assoc]

-- A declaration behind one that is never closed does not count.
example : locate? "int f() \x7b \x7b \x7d int f() \x7b \x7d".toList ['f'] = none := by
  decide +kernel

/-- A member that is declared without a body and called before its first declaration with one, and
declared once more behind that. -/
def declaredTwice : Text :=
  "int f(); int g() \x7b return f(); \x7d ".toList ++
    "T[] f(g(x), y) throws E \x7b a \x7b b \x7d c \x7d int f() \x7b \x7d".toList

theorem locate?_first_declaration_twice :
    ∃ before afterName body, Declares declaredTwice ['f'] before afterName body ∧
      (∀ other afterOther bodyOther, Declares declaredTwice ['f'] other afterOther bodyOther →
        before <+: other) ∧
      ∃ member, locate? declaredTwice ['f'] = some member ∧
        member.body = " a \x7b b \x7d c ".toList ∧ bodyBraces.Nested member.body := by
  obtain ⟨member, located, shown⟩ : ∃ member, locate? declaredTwice ['f'] = some member ∧
      member.body = " a \x7b b \x7d c ".toList :=
    ⟨⟨['f'], 58, 69, " a \x7b b \x7d c ".toList⟩, by decide +kernel, rfl⟩
  have solid : ∀ c ∈ ['f'], isBlank c = false ∧ c ≠ '>' ∧ c ≠ ']' := by
    intro c member
    rw [List.mem_singleton.mp member]
    exact ⟨rfl, by decide, by decide⟩
  rcases locate?_first_declaration (List.cons_ne_nil 'f' []) solid with
    ⟨-, absent⟩ | ⟨before, afterName, body, declares, leftmost, -, found⟩
  · rw [located] at absent
    cases absent
  · obtain ⟨-, _, _, _, _, _, _, nested⟩ := found member located
    exact ⟨before, afterName, body, declares, leftmost, member, located, shown, nested⟩

end QuestRecords.Source.Member
