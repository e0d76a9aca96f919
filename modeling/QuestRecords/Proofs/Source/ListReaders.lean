import QuestRecords.Proofs.Offsets.Lists
import QuestRecords.Proofs.Source.FoundCalls
import QuestRecords.Proofs.Source.WrittenArguments

/-! The two readers of list literals: one takes a whole expression, the other finds every literal in
a text. Both accept the name of a builder and arguments in parentheses. They differ in what may stand
between the two, and the one has nothing else to read while the other goes on. -/
namespace QuestRecords.Source.ListLiteral

open Text

/-- A list literal as it is written, with its arguments: the name of a builder, spaces of some kind,
and the arguments between a parenthesis and the one that closes it. -/
def IsList (space : Char → Bool) (builder expression args : Text) : Prop :=
  ∃ spaces, expression = builder ++ spaces ++ '(' :: (args ++ [')']) ∧
    (∀ c ∈ spaces, space c = true) ∧
      parenthesised? ('(' :: (args ++ [')'])) = some (args, [])

theorem IsList.blank {builder expression args : Text}
    (isList : IsList isGap builder expression args) : IsList isBlank builder expression args := by
  obtain ⟨gaps, whole, gap, closed⟩ := isList
  exact ⟨gaps, whole, fun c member => isBlank_of_isGap c (gap c member), closed⟩

/-- A parenthesis is read by itself as it is read before other text. -/
theorem parenthesised?_sole_iff {paren args after : Text} :
    parenthesised? paren = some (args, after) ↔
      paren = '(' :: (args ++ [')']) ++ after ∧
        parenthesised? ('(' :: (args ++ [')'])) = some (args, []) := by
  constructor
  · intro read
    obtain ⟨inside, rfl, rfl, grammar⟩ := parenthesised?_eq_some_iff.mp read
    exact ⟨by simp, parenthesised?_eq_some_iff.mpr ⟨inside, rfl, rfl, grammar⟩⟩
  · rintro ⟨rfl, read⟩
    obtain ⟨inside, rfl, -, grammar⟩ := parenthesised?_eq_some_iff.mp read
    exact parenthesised?_eq_some_iff.mpr ⟨inside, rfl, by simp, grammar⟩

section

variable {builder : Text}

theorem builders_solid (known : builder ∈ builders) :
    ∃ c rest, builder = c :: rest ∧ isBlank c = false := by
  simp only [builders, List.mem_cons, List.not_mem_nil, or_false] at known
  rcases known with rfl | rfl | rfl <;> exact ⟨_, _, rfl, by decide⟩

theorem builders_apart {other text : Text} (known : builder ∈ builders)
    (otherKnown : other ∈ builders) (begins : builder <+: text) (otherBegins : other <+: text) :
    builder = other := by
  have heads : ∀ left ∈ builders, ∀ right ∈ builders, left.head? = right.head? → left = right := by
    decide +kernel
  obtain ⟨c, rest, rfl, -⟩ := builders_solid known
  obtain ⟨d, others, rfl, -⟩ := builders_solid otherKnown
  obtain ⟨after, rfl⟩ := begins
  obtain ⟨later, same⟩ := otherBegins
  exact heads _ known _ otherKnown (congrArg some (List.cons.inj same).1.symm)

end

section

variable {α : Type} {read : Text → Option α} {text : Text}
  (begins : ∀ builder ∈ builders, ∀ result, read builder = some result → builder <+: text)
include begins

/-- At most one builder is read where a text begins. -/
theorem filterMap_builders : builders.filterMap read = (builders.findSome? read).toList := by
  have distinct : builders.Nodup := by decide +kernel
  apply filterMap_eq_toList_findSome?
  refine distinct.imp_of_mem fun {left right} known otherKnown apart here => ?_
  obtain ⟨result, here⟩ := Option.isSome_iff_exists.mp here
  refine Option.eq_none_iff_forall_ne_some.mpr fun other there => apart ?_
  exact builders_apart known otherKnown (begins left known result here)
    (begins right otherKnown other there)

theorem findSome?_builders {builder : Text} (known : builder ∈ builders) {result : α}
    (here : read builder = some result) : builders.findSome? read = some result := by
  have member : result ∈ builders.filterMap read := List.mem_filterMap.mpr ⟨builder, known, here⟩
  rw [filterMap_builders begins] at member
  exact Option.mem_toList.mp member

end

def anyAt? (site : Site) : Option ListLiteral := builders.findSome? fun builder => at? builder site

theorem at?_eq_some_iff {builder : Text} {site : Site} {literal : ListLiteral} :
    at? builder site = some literal ↔
      site.behind.head?.any continuesName = false ∧ ∃ expression args after,
        site.ahead = expression ++ after ∧ IsList isGap builder expression args ∧
          literal = ⟨site.offset, identifiersIn args⟩ := by
  constructor
  · intro read
    obtain ⟨rest, begins, read⟩ := Option.bind_eq_some_iff.mp read
    obtain ⟨apart, read⟩ := Option.ite_none_left_eq_some.mp read
    obtain ⟨⟨args, after⟩, closed, same⟩ := Option.bind_eq_some_iff.mp read
    obtain ⟨paren, sole⟩ := parenthesised?_sole_iff.mp closed
    refine ⟨Bool.eq_false_iff.mpr apart,
      builder ++ rest.takeWhile isGap ++ '(' :: (args ++ [')']), args, after, ?_,
      ⟨rest.takeWhile isGap, rfl, passes_takeWhile isGap rest, sole⟩, (Option.some.inj same).symm⟩
    rw [after?_eq_some_iff.mp begins, List.append_assoc, List.append_assoc, ← paren,
      Offsets.takeWhile_append_skipGaps]
  · rintro ⟨apart, _, args, after, whole, ⟨gaps, rfl, gap, sole⟩, rfl⟩
    have begins : after? builder site.ahead =
        some (gaps ++ ('(' :: (args ++ [')']) ++ after)) := by
      apply after?_eq_some_iff.mpr
      rw [whole, List.append_assoc, List.append_assoc]
    have paren : skipGaps (gaps ++ ('(' :: (args ++ [')']) ++ after)) =
        '(' :: (args ++ [')']) ++ after := dropWhile_append gap rfl
    have closed := parenthesised?_sole_iff.mpr ⟨Eq.refl ('(' :: (args ++ [')']) ++ after), sole⟩
    simp only [at?, begins, apart, paren, closed, Option.bind_eq_bind, Option.bind_some,
      Bool.false_eq_true, if_false, Option.pure_def]

theorem prefix_of_at? {builder : Text} {site : Site} {literal : ListLiteral}
    (read : at? builder site = some literal) : builder <+: site.ahead := by
  obtain ⟨-, _, args, after, whole, ⟨gaps, rfl, -, -⟩, -⟩ := at?_eq_some_iff.mp read
  exact ⟨gaps ++ '(' :: (args ++ [')']) ++ after, by simp [whole]⟩

theorem anyAt?_eq_some_iff {site : Site} {literal : ListLiteral} :
    anyAt? site = some literal ↔ ∃ builder ∈ builders, at? builder site = some literal := by
  constructor
  · exact List.exists_of_findSome?_eq_some
  · rintro ⟨builder, known, read⟩
    exact findSome?_builders (fun _ _ _ => prefix_of_at?) known read

theorem start_of_anyAt? {site : Site} {literal : ListLiteral} (read : anyAt? site = some literal) :
    literal.start = site.offset := by
  obtain ⟨builder, -, read⟩ := anyAt?_eq_some_iff.mp read
  obtain ⟨-, _, _, _, -, -, rfl⟩ := at?_eq_some_iff.mp read
  rfl

theorem anyAt?_of_isBlank {c : Char} (blank : isBlank c = true) {behind ahead : Text} :
    anyAt? ⟨behind, c :: ahead⟩ = none := by
  refine Option.eq_none_iff_forall_ne_some.mpr fun literal read => ?_
  obtain ⟨builder, known, read⟩ := anyAt?_eq_some_iff.mp read
  obtain ⟨d, rest, rfl, solid⟩ := builders_solid known
  obtain ⟨after, same⟩ := prefix_of_at? read
  rw [(List.cons.inj same).1, blank] at solid
  cases solid

/-- Sorting the literals of each builder gives the literals in the order of the text. -/
theorem findIn_eq (text : Text) : findIn text = findAll anyAt? text := by
  have sole : ∀ site, (builders.map at?).filterMap (· site) = (anyAt? site).toList := by
    intro site
    rw [List.filterMap_map]
    exact filterMap_builders fun _ _ _ => prefix_of_at?
  have sorted := mergeSort_findAll sole (fun _ _ => start_of_anyAt?) text
  rwa [List.flatMap_map] at sorted

theorem getLast?_trim (text : Text) : (trim text).getLast?.any isBlank = false := by
  rw [trim, trimEnd, List.getLast?_reverse]
  exact stops_dropWhile isBlank _

theorem soleParenthesis?_eq_some_some_iff {paren args : Text}
    (ended : paren.getLast?.any isBlank = false) :
    Offsets.soleParenthesis? paren = some (some args) ↔
      paren = '(' :: (args ++ [')']) ∧ parenthesised? paren = some (args, []) := by
  constructor
  · intro read
    obtain ⟨-, read⟩ := Option.ite_none_right_eq_some.mp read
    obtain ⟨⟨inside, after⟩, closed, alone⟩ := Option.bind_eq_some_iff.mp (Option.some.inj read)
    obtain ⟨blank, same⟩ := Option.ite_none_right_eq_some.mp alone
    cases same
    have blank := trim_eq_nil_iff.mp (List.isEmpty_iff.mp blank)
    obtain ⟨whole, sole⟩ := parenthesised?_sole_iff.mp closed
    have none : after = [] := by
      rcases List.eq_nil_or_concat after with none | ⟨front, c, rfl⟩
      · exact none
      · rw [whole, List.concat_eq_append, ← List.append_assoc, List.getLast?_concat] at ended
        exact absurd (blank c (by simp)) (Bool.eq_false_iff.mp ended)
    subst none
    rw [List.append_nil] at whole
    exact ⟨whole, by rw [whole, sole]⟩
  · rintro ⟨rfl, closed⟩
    rw [Offsets.soleParenthesis?, closed]
    rfl

/-- An expression is read as one call of a builder, when its name, blanks and a parenthesis that is
closed at the end are all there is. -/
theorem argumentsOf?_eq_some_some_iff {builder expression args : Text}
    (ended : expression.getLast?.any isBlank = false) :
    argumentsOf? builder expression = some (some args) ↔
      IsList isBlank builder expression args := by
  have ends : ∀ {front paren : Text}, expression = front ++ paren →
      paren.getLast?.any isBlank = false := by
    rintro front paren rfl
    rcases List.eq_nil_or_concat paren with rfl | ⟨_, c, rfl⟩
    · rfl
    · simpa using ended
  rw [Offsets.argumentsOf?_eq]
  constructor
  · intro read
    obtain ⟨rest, begins, read⟩ := Option.bind_eq_some_iff.mp read
    have split : expression = builder ++ rest.takeWhile isBlank ++ trimStart rest := by
      rw [List.append_assoc, Offsets.takeWhile_append_trimStart, after?_eq_some_iff.mp begins]
    obtain ⟨paren, closed⟩ := (soleParenthesis?_eq_some_some_iff (ends split)).mp read
    rw [paren] at split closed
    exact ⟨rest.takeWhile isBlank, split, passes_takeWhile isBlank rest, closed⟩
  · rintro ⟨blanks, split, blank, closed⟩
    have begins : after? builder expression = some (blanks ++ '(' :: (args ++ [')'])) := by
      rw [after?_eq_some_iff, split, List.append_assoc]
    have paren : trimStart (blanks ++ '(' :: (args ++ [')'])) = '(' :: (args ++ [')']) :=
      dropWhile_append blank rfl
    rw [begins, Option.bind_some, paren]
    exact (soleParenthesis?_eq_some_some_iff (ends split)).mpr ⟨rfl, closed⟩

theorem prefix_of_argumentsOf? {builder expression : Text} {found : Option Text}
    (read : argumentsOf? builder expression = some found) : builder <+: expression := by
  obtain ⟨rest, begins, -⟩ := Option.bind_eq_some_iff.mp read
  exact ⟨rest, (after?_eq_some_iff.mp begins).symm⟩

/-- An expression is read as a list when, trimmed, it is the name of a builder, blanks, and arguments
in parentheses. -/
theorem parse?_eq_some_iff {expression : Text} {names : List Text} :
    parse? expression = some names ↔ ∃ builder ∈ builders, ∃ args,
      IsList isBlank builder (trim expression) args ∧ names = identifiersIn args := by
  constructor
  · intro read
    obtain ⟨args, found, rfl⟩ := Option.map_eq_some_iff.mp read
    obtain ⟨builder, known, read⟩ := List.exists_of_findSome?_eq_some (Option.join_eq_some_iff.mp found)
    exact ⟨builder, known, args,
      (argumentsOf?_eq_some_some_iff (getLast?_trim expression)).mp read, rfl⟩
  · rintro ⟨builder, known, args, isList, rfl⟩
    have read := (argumentsOf?_eq_some_some_iff (getLast?_trim expression)).mpr isList
    rw [parse?, findSome?_builders (fun _ _ _ => prefix_of_argumentsOf?) known read]
    rfl

/-- A written list literal has no blanks around it. -/
theorem IsList.trim_eq {space : Char → Bool} {builder expression args : Text}
    (isList : IsList space builder expression args) (known : builder ∈ builders) :
    trim expression = expression := by
  obtain ⟨spaces, rfl, -, -⟩ := isList
  obtain ⟨c, rest, rfl, solid⟩ := builders_solid known
  have last : c :: rest ++ spaces ++ '(' :: (args ++ [')']) =
      (c :: rest ++ spaces ++ '(' :: args) ++ [')'] := by simp
  exact trim_eq_self (by rw [List.cons_append, List.cons_append]) solid last (by decide)

/-- A list literal that stands in a text: at its start the name of a builder, gaps up to a
parenthesis, and the parenthesis that closes that one. -/
structure StandsIn (literal : ListLiteral) (text : Text) (openParen close : Nat) : Prop where
  opening : ∃ builder ∈ builders, ∃ gaps, (∀ c ∈ gaps, isGap c = true) ∧
    text.slice? literal.start openParen = some (builder ++ gaps)
  closed : matchingParen? text openParen = some close

/-- A literal that is found stands in the text, and what stands up to its closing parenthesis is read
as the same list. -/
theorem parse?_of_mem_findIn {text : Text} {literal : ListLiteral}
    (member : literal ∈ findIn text) : ∃ openParen close, literal.StandsIn text openParen close ∧
      ∃ expression, text.slice? literal.start (close + 1) = some expression ∧
        parse? expression = some literal.identifiers := by
  rw [findIn_eq] at member
  obtain ⟨site, place, found⟩ := List.mem_filterMap.mp member
  obtain ⟨builder, known, read⟩ := anyAt?_eq_some_iff.mp found
  obtain ⟨-, expression, args, after, split, isList, rfl⟩ := at?_eq_some_iff.mp read
  have whole : text = site.behind.reverse ++ (expression ++ after) := by
    rw [← split]
    exact (Offsets.text_of_mem_sites place).symm
  have start : site.offset = width site.behind.reverse := (width_reverse site.behind).symm
  have spoken : parse? expression = some (identifiersIn args) := by
    apply parse?_eq_some_iff.mpr
    exact ⟨builder, known, args, by rw [isList.trim_eq known]; exact isList.blank, rfl⟩
  obtain ⟨gaps, header, gap, sole⟩ := isList
  have wide : width expression = width (builder ++ gaps) + 1 + width args + 1 := by
    rw [header]
    simp
    omega
  have paren : site.ahead = builder ++ gaps ++ ('(' :: (args ++ [')']) ++ after) := by
    rw [split, header]
    simp
  have closed : matchingParen? text (site.offset + width (builder ++ gaps)) =
      some (site.offset + width (builder ++ gaps) + 1 + width args) := by
    rw [← Offsets.text_of_mem_sites place, matchingParen?_site paren,
      parenthesised?_sole_iff.mpr ⟨rfl, sole⟩, Option.map_some]
  refine ⟨_, _, ⟨⟨builder, known, gaps, gap, ?_⟩, closed⟩, expression, ?_, spoken⟩
  · apply slice?_of_append site.behind.reverse ('(' :: (args ++ [')']) ++ after) _ start
    · rw [start]
    · rw [whole, ← split, paren]
  · apply slice?_of_append site.behind.reverse after whole start
    rw [wide, start]
    omega

/-- Only gaps stand behind the name of a builder that an expression begins with, as far as blanks
stand there. -/
def SpacedByGaps (expression : Text) : Prop :=
  ∀ builder ∈ builders, ∀ rest, trimStart expression = builder ++ rest →
    ∀ c ∈ rest.takeWhile isBlank, isGap c = true

theorem spacedByGaps_iff {expression : Text} : SpacedByGaps expression ↔
    (builders.all fun builder => (after? builder (trimStart expression)).all fun rest =>
      (rest.takeWhile isBlank).all isGap) = true := by
  simp only [SpacedByGaps, List.all_eq_true, Option.all_eq_true, after?_eq_some_iff]

/-- An expression that is read as a list begins with the same list literal, when gaps stand between the
name of the builder and the parenthesis. -/
theorem head?_findIn_of_parse? {expression : Text} {names : List Text}
    (spaced : SpacedByGaps expression) (read : parse? expression = some names) :
    (findIn expression).head? = some ⟨width (expression.takeWhile isBlank), names⟩ := by
  obtain ⟨builder, known, args, isList, rfl⟩ := parse?_eq_some_iff.mp read
  obtain ⟨blanks, header, blank, sole⟩ := isList
  obtain ⟨tail, -, trimmed⟩ := trim_split expression
  have body : trimStart expression = trim expression ++ tail := by
    have whole := Offsets.takeWhile_append_trimStart expression
    rw [List.append_assoc] at trimmed
    exact List.append_cancel_left (whole.trans trimmed)
  have taken : (blanks ++ ('(' :: (args ++ [')']) ++ tail)).takeWhile isBlank = blanks :=
    takeWhile_append blank rfl
  have gap : ∀ c ∈ blanks, isGap c = true := by
    have gaps := spaced builder known (blanks ++ ('(' :: (args ++ [')']) ++ tail))
      (by rw [body, header]; simp)
    rwa [taken] at gaps
  have apart : (expression.takeWhile isBlank).reverse.head?.any continuesName = false := by
    rw [List.head?_reverse]
    cases last : (expression.takeWhile isBlank).getLast? with
    | none => rfl
    | some c =>
      have solid := passes_takeWhile isBlank expression c (List.mem_of_getLast? last)
      apply Bool.eq_false_iff.mpr
      intro part
      rw [isBlank_of_isIdentifierPart part] at solid
      cases solid
  have here : anyAt? ⟨(expression.takeWhile isBlank).reverse, trimStart expression⟩ =
      some ⟨width (expression.takeWhile isBlank), identifiersIn args⟩ := by
    apply anyAt?_eq_some_iff.mpr
    refine ⟨builder, known, at?_eq_some_iff.mpr ⟨apart, trim expression, args, tail, body,
      ⟨blanks, header, gap, sole⟩, ?_⟩⟩
    rw [Site.offset, width_reverse]
  obtain ⟨c, others, starts⟩ : ∃ c others, trimStart expression = c :: others := by
    obtain ⟨c, rest, rfl, -⟩ := builders_solid known
    rw [body, header]
    exact ⟨c, _, rfl⟩
  have silent : foundIn anyAt? [] (expression.takeWhile isBlank) (c :: others) = [] :=
    foundIn_of_heads fun d member _ _ =>
      anyAt?_of_isBlank (passes_takeWhile isBlank expression d member)
  have split : expression.takeWhile isBlank ++ c :: others = expression := by
    rw [← starts, Offsets.takeWhile_append_trimStart]
  have first := findFirst?_append silent (by rw [← starts]; exact here)
  rw [split] at first
  rw [findIn_eq, ← findFirst?_eq_head?]
  exact first

/-- Every list literal that is found stands in the text, and the reader of whole expressions reads the
same list from its text. An expression that is read as a list, with only gaps between the name of the
builder and the parenthesis, begins with the same list literal behind its blanks. And the literals
that are found start at increasing offsets. -/
theorem readers_agree :
    (∀ text, ∀ literal ∈ findIn text, ∃ openParen close, literal.StandsIn text openParen close ∧
      ∃ expression, text.slice? literal.start (close + 1) = some expression ∧
        parse? expression = some literal.identifiers) ∧
    (∀ expression names, SpacedByGaps expression → parse? expression = some names →
      (findIn expression).head? = some ⟨width (expression.takeWhile isBlank), names⟩) ∧
    ∀ text, ((findIn text).map start).Pairwise (· < ·) := by
  refine ⟨fun _ _ => parse?_of_mem_findIn, fun _ _ => head?_findIn_of_parse?, fun text => ?_⟩
  rw [findIn_eq, List.pairwise_map]
  exact pairwise_filterMap_sitesFrom (fun _ _ => start_of_anyAt?) [] text

/-- A list behind blanks, with gaps before its parenthesis and another list inside; a parenthesis in
a literal closes nothing. -/
def nestedLists : Text := "\u2003 List.of \n(a, Arrays.asList(b), \")\") ".toList

theorem readers_agree_nested :
    ((findIn nestedLists).map fun literal => (literal.start, literal.identifiers)) =
      [(4, [['a']]), (17, [['b']])] ∧
    parse? nestedLists = some [['a']] ∧
    (findIn nestedLists).head? = some ⟨4, [['a']]⟩ ∧
    ∃ literal ∈ findIn nestedLists, literal.start = 17 ∧ ∃ close expression,
      nestedLists.slice? 17 (close + 1) = some expression ∧
        parse? expression = some [['b']] := by
  obtain ⟨sliced, first, -⟩ := readers_agree
  have found : ((findIn nestedLists).map fun literal => (literal.start, literal.identifiers)) =
      [(4, [['a']]), (17, [['b']])] := by
    rw [findIn_eq]
    decide +kernel
  have read : parse? nestedLists = some [['a']] := by decide +kernel
  have inner : (17, [['b']]) ∈
      (findIn nestedLists).map fun literal => (literal.start, literal.identifiers) := by simp [found]
  obtain ⟨literal, member, same⟩ := List.mem_map.mp inner
  obtain ⟨start, names⟩ := Prod.mk.inj same
  obtain ⟨openParen, close, -, expression, slice, parsed⟩ := sliced nestedLists literal member
  refine ⟨found, read, ?_, literal, member, start, close, expression, ?_, ?_⟩
  · exact first nestedLists [['a']] (spacedByGaps_iff.mpr (by decide +kernel)) read
  · rw [← start]
    exact slice
  · rw [← names]
    exact parsed

end QuestRecords.Source.ListLiteral
