import QuestRecords.Proofs.Source.Identifiers
import QuestRecords.Proofs.Source.Suffixes
import QuestRecords.Proofs.Text.Spans

namespace QuestRecords

namespace Text

/-- The code points of blanks. -/
def blankCodes : List Nat :=
  [0x09, 0x0A, 0x0B, 0x0C, 0x0D, 0x20, 0x85, 0xA0, 0x1680, 0x2000, 0x2001, 0x2002, 0x2003, 0x2004,
    0x2005, 0x2006, 0x2007, 0x2008, 0x2009, 0x200A, 0x2028, 0x2029, 0x202F, 0x205F, 0x3000]

theorem mem_blankCodes {c : Char} (blank : isBlank c = true) : c.toNat ∈ blankCodes := by
  simp only [isBlank, Bool.or_eq_true, Bool.and_eq_true, decide_eq_true_eq, beq_iff_eq] at blank
  simp only [blankCodes, List.mem_cons, List.not_mem_nil, or_false]
  omega

theorem isWord_of_isBlank {c : Char} (blank : isBlank c = true) : isWord c = false := by
  have apart : ∀ code ∈ blankCodes, isWord (Char.ofNat code) = false := by decide +kernel
  have here := apart c.toNat (mem_blankCodes blank)
  rwa [Char.ofNat_toNat] at here

section

variable {text rest : Text}

theorem skipBlanks_eq_iff : skipBlanks text = rest ↔
    ∃ blanks, text = blanks ++ rest ∧ (∀ c ∈ blanks, isBlank c = true) ∧
      rest.head?.any isBlank = false := by
  constructor
  · rintro rfl
    exact ⟨text.takeWhile isBlank, List.takeWhile_append_dropWhile.symm,
      passes_takeWhile isBlank text, stops_dropWhile isBlank text⟩
  · rintro ⟨blanks, rfl, blank, stops⟩
    exact dropWhile_append blank stops

theorem skipBlanks1?_eq_some_iff : skipBlanks1? text = some rest ↔
    ∃ blanks, text = blanks ++ rest ∧ blanks ≠ [] ∧ (∀ c ∈ blanks, isBlank c = true) ∧
      rest.head?.any isBlank = false := by
  constructor
  · intro read
    cases text with
    | nil => cases read
    | cons c text =>
      obtain ⟨first, same⟩ := Option.ite_none_right_eq_some.mp read
      obtain ⟨blanks, split, blank, stops⟩ := skipBlanks_eq_iff.mp (Option.some.inj same)
      exact ⟨c :: blanks, by rw [split, List.cons_append], List.cons_ne_nil _ _,
        List.forall_mem_cons.mpr ⟨first, blank⟩, stops⟩
  · rintro ⟨blanks, rfl, filled, blank, stops⟩
    obtain ⟨c, blanks, rfl⟩ := List.exists_cons_of_ne_nil filled
    obtain ⟨first, others⟩ := List.forall_mem_cons.mp blank
    rw [List.cons_append, skipBlanks1?, if_pos first]
    exact congrArg some (dropWhile_append others stops)

end

end Text

namespace Source

open Text Reader

/-- A name: a letter of ASCII or an underscore, and word characters of any script behind it. -/
inductive IsName : Text → Prop where
  | named (first : (c.isAlpha || c == '_') = true) (later : ∀ d ∈ rest, isWord d = true) :
      IsName (c :: rest)

theorem IsName.words {name : Text} (isName : IsName name) : ∀ c ∈ name, isWord c = true := by
  obtain ⟨first, later⟩ := isName
  have part := isIdentifierPart_of_isIdentifierStart first
  exact List.forall_mem_cons.mpr ⟨isWord_of_isIdentifierPart part, later⟩

theorem name?_eq_some_iff {text name rest : Text} : name? text = some (name, rest) ↔
    text = name ++ rest ∧ IsName name ∧ rest.head?.any isWord = false := by
  constructor
  · intro read
    cases text with
    | nil => cases read
    | cons c text =>
      obtain ⟨first, same⟩ := Option.ite_none_right_eq_some.mp read
      cases same
      exact ⟨by rw [List.cons_append, List.takeWhile_append_dropWhile],
        .named first (passes_takeWhile isWord text), stops_dropWhile isWord text⟩
  · rintro ⟨rfl, ⟨first, later⟩, stops⟩
    rw [List.cons_append, name?, nameOf?, if_pos first, takeWhile_append later stops,
      dropWhile_append later stops]

theorem spacedChar?_eq_some_iff {sign : Char} (solid : isBlank sign = false) {text rest : Text} :
    spacedChar? sign text = some rest ↔
      ∃ blanks, text = blanks ++ sign :: rest ∧ ∀ c ∈ blanks, isBlank c = true := by
  rw [spacedChar?, char?_eq_some_iff, skipBlanks_eq_iff]
  constructor
  · rintro ⟨blanks, split, blank, -⟩
    exact ⟨blanks, split, blank⟩
  · rintro ⟨blanks, split, blank⟩
    exact ⟨blanks, split, blank, solid⟩

theorem assigned?_eq_some_iff {site : Site} {name rest : Text} :
    assigned? site = some (name, rest) ↔
      site.behind.head?.any isWord = false ∧ IsName name ∧ rest.head?.any isBlank = false ∧
        ∃ left right, site.ahead = name ++ (left ++ '=' :: (right ++ rest)) ∧
          ∀ c ∈ left ++ right, isBlank c = true := by
  have solid : isBlank '=' = false := by decide
  have equalsSign : isWord '=' = false := by decide +kernel
  constructor
  · intro read
    obtain ⟨starts, read⟩ := Option.ite_none_left_eq_some.mp read
    obtain ⟨⟨found, afterName⟩, named, read⟩ := Option.bind_eq_some_iff.mp read
    obtain ⟨afterEquals, equals, same⟩ := Option.bind_eq_some_iff.mp read
    cases same
    obtain ⟨whole, isName, -⟩ := name?_eq_some_iff.mp named
    obtain ⟨left, split, blankLeft⟩ := (spacedChar?_eq_some_iff solid).mp equals
    obtain ⟨right, split', blankRight, stops⟩ := skipBlanks_eq_iff.mp (Eq.refl (skipBlanks _))
    refine ⟨?_, isName, stops, left, right, ?_, List.forall_mem_append.mpr ⟨blankLeft, blankRight⟩⟩
    · simpa [startsWord, isWordEdge] using starts
    · rw [← split', ← split, whole]
  · rintro ⟨starts, isName, stops, left, right, whole, blank⟩
    obtain ⟨blankLeft, blankRight⟩ := List.forall_mem_append.mp blank
    have ended : (left ++ '=' :: (right ++ rest)).head?.any isWord = false := by
      cases left with
      | nil => exact equalsSign
      | cons c left => exact isWord_of_isBlank (blankLeft c List.mem_cons_self)
    have named := name?_eq_some_iff.mpr ⟨whole, isName, ended⟩
    have equals : spacedChar? '=' (left ++ '=' :: (right ++ rest)) = some (right ++ rest) :=
      (spacedChar?_eq_some_iff solid).mpr ⟨left, rfl, blankLeft⟩
    have behind := skipBlanks_eq_iff.mpr ⟨right, rfl, blankRight, stops⟩
    simp [assigned?, startsWord, isWordEdge, starts, named, equals, behind]

/-- What stands between a name and the arguments of the new object that is assigned to it. -/
def AssignsNew (typeName header : Text) : Prop :=
  ∃ left right gap further,
    header = left ++ '=' :: (right ++ "new".toList ++ gap ++ typeName ++ further) ∧ gap ≠ [] ∧
      ∀ c ∈ left ++ right ++ gap ++ further, isBlank c = true

/-- An assignment of a new object of a type, by what stands before the name, between the name and
the opening parenthesis, and behind that. -/
structure Assigns (typeName source before name header args : Text) : Prop where
  stands : source = before ++ (name ++ header) ++ '(' :: args
  startsWord : before.getLast?.any isWord = false
  named : IsName name
  assigned : AssignsNew typeName header

theorem Assigns.ahead_eq {typeName before ahead name header args : Text}
    (assigns : Assigns typeName (before ++ ahead) before name header args) :
    ahead = name ++ header ++ '(' :: args := by
  have stands := assigns.stands
  rwa [List.append_assoc, List.append_cancel_left_eq] at stands

section

variable {typeName : String} (solid : ∃ c, typeName.toList.head? = some c ∧ isBlank c = false)
include solid

theorem newOfAny?_eq_some_iff {text paren : Text} : newOfAny? [typeName] text = some paren ↔
    ∃ gap further args, text = "new".toList ++ gap ++ typeName.toList ++ further ++ paren ∧
      paren = '(' :: args ∧ gap ≠ [] ∧ ∀ c ∈ gap ++ further, isBlank c = true := by
  constructor
  · intro read
    obtain ⟨afterNew, new, read⟩ := Option.bind_eq_some_iff.mp read
    obtain ⟨atType, blanks, read⟩ := Option.bind_eq_some_iff.mp read
    rw [List.findSome?_singleton] at read
    obtain ⟨rest, typed, opened⟩ := Option.bind_eq_some_iff.mp read
    obtain ⟨gap, split, filled, blank, -⟩ := skipBlanks1?_eq_some_iff.mp blanks
    split at opened
    · rename_i args paren
      cases opened
      obtain ⟨further, split', blank', -⟩ := skipBlanks_eq_iff.mp paren
      refine ⟨gap, further, args, ?_, rfl, filled, List.forall_mem_append.mpr ⟨blank, blank'⟩⟩
      rw [after?_eq_some_iff.mp new, split, after?_eq_some_iff.mp typed, split']
      simp
    · cases opened
  · rintro ⟨gap, further, args, rfl, rfl, filled, blank⟩
    obtain ⟨blankGap, blankFurther⟩ := List.forall_mem_append.mp blank
    obtain ⟨c, first, visible⟩ := solid
    obtain ⟨letters, named⟩ := List.head?_eq_some_iff.mp first
    have stops : (typeName.toList ++ (further ++ '(' :: args)).head?.any isBlank = false := by
      rw [named]
      exact visible
    have new : word? "new" ("new".toList ++ (gap ++ (typeName.toList ++ (further ++ '(' :: args)))) =
        some (gap ++ (typeName.toList ++ (further ++ '(' :: args))) := after?_eq_some_iff.mpr rfl
    have blanks := skipBlanks1?_eq_some_iff.mpr ⟨gap, rfl, filled, blankGap, stops⟩
    have typed : word? typeName (typeName.toList ++ (further ++ '(' :: args)) =
        some (further ++ '(' :: args) := after?_eq_some_iff.mpr rfl
    have paren : skipBlanks (further ++ '(' :: args) = '(' :: args :=
      skipBlanks_eq_iff.mpr ⟨further, rfl, blankFurther, rfl⟩
    simp only [List.append_assoc, newOfAny?, new, blanks, typed, paren, Option.bind_eq_bind,
      Option.bind_some, List.findSome?_singleton]

/-- Reading accepts exactly what is an assignment. -/
theorem assignment?_eq_some_iff {before ahead name paren : Text} :
    assignment? typeName ⟨before.reverse, ahead⟩ = some (name, paren) ↔
      ∃ header args, paren = '(' :: args ∧
        Assigns typeName.toList (before ++ ahead) before name header args := by
  constructor
  · intro read
    obtain ⟨⟨found, rest⟩, assigned, read⟩ := Option.bind_eq_some_iff.mp read
    obtain ⟨inner, new, same⟩ := Option.bind_eq_some_iff.mp read
    cases same
    obtain ⟨starts, isName, -, left, right, whole, blank⟩ := assigned?_eq_some_iff.mp assigned
    obtain ⟨gap, further, args, rfl, rfl, filled, blank'⟩ := (newOfAny?_eq_some_iff solid).mp new
    rw [List.head?_reverse] at starts
    refine ⟨left ++ '=' :: (right ++ "new".toList ++ gap ++ typeName.toList ++ further), args, rfl,
      ?_, starts, isName, left, right, gap, further, rfl, filled, ?_⟩
    · have whole : ahead = _ := whole
      simp [whole]
    · rw [List.append_assoc]
      exact List.forall_mem_append.mpr ⟨blank, blank'⟩
  · rintro ⟨header, args, rfl, assigns⟩
    have ahead_eq := assigns.ahead_eq
    obtain ⟨-, starts, isName, left, right, gap, further, rfl, filled, blank⟩ := assigns
    rw [List.append_assoc] at blank
    obtain ⟨blankSign, blankType⟩ := List.forall_mem_append.mp blank
    have whole : ahead = name ++ (left ++ '=' :: (right ++
        ("new".toList ++ gap ++ typeName.toList ++ further ++ '(' :: args))) := by
      rw [ahead_eq]
      simp
    have new := (newOfAny?_eq_some_iff solid).mpr ⟨gap, further, args, rfl, rfl, filled, blankType⟩
    have assigned : assigned? ⟨before.reverse, ahead⟩ = some (name, _) :=
      assigned?_eq_some_iff.mpr
        ⟨by rwa [List.head?_reverse], isName, rfl, left, right, whole, blankSign⟩
    simp only [assignment?, assigned, new, Option.bind_eq_bind, Option.bind_some, Option.pure_def]

end

end Source
end QuestRecords
