import QuestRecords.Proofs.Source.Statements
import QuestRecords.Proofs.Source.WrittenArguments
import QuestRecords.Quest.ItemReference

namespace QuestRecords.ItemReference

open Source Text Reader

def returned (items : List Identifier) : Text := "return ".toList ++ listSource items ++ [';']

theorem statements : Statements returned := by
  intro items
  refine ⟨"return ".toList ++ listSource items, rfl, ?_, ?_⟩
  · simp [not_mem_listSource items (c := '\x7b') (by decide) (by decide)]
  · simp [not_mem_listSource items (c := '\x7d') (by decide) (by decide)]

/-- The identifiers of a list literal at a place. -/
def listed? (builder : Text) (site : Site) : Option (List Text) :=
  (ListLiteral.at? builder site).map ListLiteral.identifiers

section

variable {builder behind stretch tail : Text} {d : Char}

theorem prefix_of_listed? {site : Site} {names : List Text} (read : listed? builder site = some names) :
    builder <+: site.ahead := by
  obtain ⟨list, read, -⟩ := Option.map_eq_some_iff.mp read
  obtain ⟨rest, begins, -⟩ := Option.bind_eq_some_iff.mp read
  exact ⟨rest, (after?_eq_some_iff.mp begins).symm⟩

theorem foundIn_listed?_of_absent (stops : d ∉ builder) (absent : ¬ builder <:+: stretch) :
    foundIn (listed? builder) behind stretch (d :: tail) = [] := by
  apply foundIn_of_mark (builder <:+: ·)
  · intro site names read
    exact ⟨builder, prefix_of_listed? read, stops, List.infix_refl builder⟩
  · intro part inside named
    exact absent (named.trans inside)

theorem listed?_of_head {c : Char} (named : builder ≠ []) (other : builder.head? ≠ some c)
    (behind ahead : Text) : listed? builder ⟨behind, c :: ahead⟩ = none := by
  cases read : listed? builder ⟨behind, c :: ahead⟩ with
  | none => rfl
  | some names =>
    obtain ⟨rest, begins⟩ := prefix_of_listed? read
    obtain ⟨b, others, rfl⟩ := List.exists_cons_of_ne_nil named
    exact absurd (congrArg some (List.cons.inj begins).1) other

theorem foundIn_listed?_of_head (named : builder ≠ [])
    (absent : builder.head? ∉ stretch.map some) :
    foundIn (listed? builder) behind stretch tail = [] :=
  foundIn_of_heads fun _ member =>
    listed?_of_head named fun same => absent (same ▸ List.mem_map_of_mem member)

end

/-- Behind the name of a builder, the list literal of the returned items is read. -/
theorem listed?_listSource (items : List Identifier) (behind : Text)
    (apart : behind.head?.any ListLiteral.continuesName = false) (tail : Text) :
    listed? "Arrays.asList".toList ⟨behind, listSource items ++ tail⟩ =
      some (items.map Identifier.text) := by
  have begins : after? "Arrays.asList".toList (listSource items ++ tail) =
      some ('(' :: (commaSeparated (items.map Identifier.text) ++ ')' :: tail)) := by
    unfold listSource callSource
    apply after?_eq_some_iff.mpr
    simp
  have gaps : skipGaps ('(' :: (commaSeparated (items.map Identifier.text) ++ ')' :: tail)) =
      '(' :: (commaSeparated (items.map Identifier.text) ++ ')' :: tail) := rfl
  have read := (nested_commaSeparated (sole_of_mem_identifiers items)).parenthesised?_eq tail
  rw [listed?, ListLiteral.at?, begins]
  simp [apart, gaps, read, identifiersIn_commaSeparated]

theorem foundIn_listed?_names {builder : Text} (known : builder ∈ ListLiteral.builders)
    (items : List Identifier) (behind tail : Text) :
    foundIn (listed? builder) behind
      (commaSeparated (items.map Identifier.text) ++ [')', ';']) tail = [] := by
  have dotted : '.' ∈ builder ∧ ')' ∉ builder ∧ builder ≠ [] ∧
      builder.head? ∉ [')', ';'].map some := by
    simp only [ListLiteral.builders, List.mem_cons, List.not_mem_nil, or_false] at known
    rcases known with rfl | rfl | rfl <;> decide +kernel
  obtain ⟨dot, stops, filled, heads⟩ := dotted
  have absent : ¬ builder <:+: commaSeparated (items.map Identifier.text) := fun inside =>
    not_mem_identifiers items (by decide) (by decide) (by decide) (inside.subset dot)
  refine foundIn_append_eq_nil ?_ ?_
  · exact foundIn_listed?_of_absent stops absent
  · exact foundIn_listed?_of_head filled heads

/-- The names that a list literal of a builder has where items are returned. -/
def builtBy? (builder : Text) (items : List Identifier) : Option (List Text) :=
  if builder = "Arrays.asList".toList then some (items.map Identifier.text) else none

/-- The list literal of returned items is found, and no other. -/
theorem foundIn_listed? {builder : Text} (known : builder ∈ ListLiteral.builders)
    (items : List Identifier) (behind tail : Text) :
    foundIn (listed? builder) behind (returned items) tail = (builtBy? builder items).toList := by
  have names := foundIn_listed?_names known items
  simp only [ListLiteral.builders, List.mem_cons, List.not_mem_nil, or_false] at known
  rcases known with rfl | others
  · have whole : returned items = "return ".toList ++ ('A' :: ("rrays.asList(".toList ++
        (commaSeparated (items.map Identifier.text) ++ [')', ';']))) := by
      unfold returned listSource callSource
      simp
    have here : 'A' :: ("rrays.asList(".toList ++
        (commaSeparated (items.map Identifier.text) ++ [')', ';']) ++ tail) =
          listSource items ++ ';' :: tail := by
      unfold listSource callSource
      simp
    have before : foundIn (listed? "Arrays.asList".toList) behind "return ".toList
        (listSource items ++ ';' :: tail) = [] :=
      foundIn_listed?_of_head (by decide +kernel) (by decide +kernel)
    have rest : ∀ behind, foundIn (listed? "Arrays.asList".toList) behind
        ("rrays.asList(".toList ++ (commaSeparated (items.map Identifier.text) ++ [')', ';']))
          tail = [] := fun _ =>
      foundIn_append_eq_nil (foundIn_listed?_of_head (by decide +kernel) (by decide +kernel))
        (names _ tail)
    have read := listed?_listSource items ("return ".toList.reverse ++ behind) rfl (';' :: tail)
    rw [whole, foundIn_append, foundIn, rest, List.cons_append, here, before, read, builtBy?,
      if_pos rfl]
    rfl
  · have whole : returned items = "return Arrays.asList".toList ++ (['('] ++
        (commaSeparated (items.map Identifier.text) ++ [')', ';'])) := by
      unfold returned listSource callSource
      simp
    have silent : builder ≠ "Arrays.asList".toList ∧ '(' ∉ builder ∧
        ¬ builder <:+: "return Arrays.asList".toList ∧ builder ≠ [] ∧
          builder.head? ∉ ['('].map some := by
      rcases others with rfl | rfl <;> decide +kernel
    obtain ⟨other, stops, absent, filled, heads⟩ := silent
    rw [whole, builtBy?, if_neg other]
    refine foundIn_append_eq_nil ?_ (foundIn_append_eq_nil ?_ (names _ _))
    · exact foundIn_listed?_of_absent stops absent
    · exact foundIn_listed?_of_head filled heads

theorem foundIn_addAt?_of_absent {behind stretch tail : Text} {d : Char}
    (stops : joins '.' d = false) (absent : '.' ∉ stretch ∨ ¬ "add".toList <:+: stretch) :
    foundIn addAt? behind stretch (d :: tail) = [] := by
  apply foundIn_of_mark fun passed => '.' ∈ passed ∧ "add".toList <:+: passed
  · intro site found read
    obtain ⟨paren, called, -⟩ := Option.bind_eq_some_iff.mp read
    obtain ⟨passed, begins, dot, named, joined⟩ :=
      passed_of_methodCall? (List.all_eq_true.mp (by decide +kernel)) called
    refine ⟨passed, begins, ?_, dot, named⟩
    intro member
    simp [joined d member] at stops
  · rintro part inside ⟨dot, named⟩
    rcases absent with absent | absent
    · exact absent (inside.subset dot)
    · exact absent (named.trans inside)

theorem addAt?_of_head {c : Char} (other : isIdentifierStart c = false) (behind ahead : Text) :
    addAt? ⟨behind, c :: ahead⟩ = none := by
  have unnamed : name? (c :: ahead) = none := if_neg (by simpa [isIdentifierStart] using other)
  rw [addAt?, methodCall?]
  simp [unnamed]

theorem foundIn_addAt?_of_noName {behind stretch tail : Text}
    (others : stretch.any isIdentifierStart = false) :
    foundIn addAt? behind stretch tail = [] :=
  foundIn_of_heads fun c member => addAt?_of_head (eq_false_of_any others c member)

theorem foundIn_addAt? (items : List Identifier) (behind tail : Text) :
    foundIn addAt? behind (returned items) tail = [] := by
  have whole : returned items = "return Arrays.asList".toList ++ (['('] ++
      (commaSeparated (items.map Identifier.text) ++ [')', ';'])) := by
    unfold returned listSource callSource
    simp
  have undotted := not_mem_identifiers items (c := '.') (by decide) (by decide) (by decide)
  rw [whole]
  refine foundIn_append_eq_nil ?_ (foundIn_append_eq_nil ?_ (foundIn_append_eq_nil ?_ ?_))
  · exact foundIn_addAt?_of_absent (by decide +kernel) (.inr (by decide +kernel))
  · exact foundIn_addAt?_of_noName (by decide)
  · exact foundIn_addAt?_of_absent (by decide +kernel) (.inl undotted)
  · exact foundIn_addAt?_of_noName (by decide)

/-- The references of a body that returns a list are the items of the list. -/
theorem extract_returned {items : List Identifier} {body : Text}
    (laid : Laid returned [items] body) : extract body = items.map Identifier.name := by
  have heads : ∀ builder ∈ ListLiteral.builders, ∀ c, isGap c = true → ∀ behind ahead,
      listed? builder ⟨behind, c :: ahead⟩ = none := by
    intro builder known c gap behind ahead
    have solid : builder ≠ [] ∧ builder.head?.any isGap = false := by
      simp only [ListLiteral.builders, List.mem_cons, List.not_mem_nil, or_false] at known
      rcases known with rfl | rfl | rfl <;> decide +kernel
    apply listed?_of_head solid.1
    intro same
    have apart := solid.2
    rw [same, Option.any_some, gap] at apart
    cases apart
  have lists : ∀ builder ∈ ListLiteral.builders, (findAll (ListLiteral.at? builder) body).map
      ListLiteral.identifiers = (builtBy? builder items).toList := by
    intro builder known
    have names : findAll (listed? builder) body =
        (findAll (ListLiteral.at? builder) body).map ListLiteral.identifiers :=
      List.map_filterMap.symm
    rw [← names, findAll_eq_foundIn, foundIn_laid statements (heads builder known)
      (builtBy? builder) (fun items behind tail _ => foundIn_listed? known items behind tail)
      laid .nil, List.filterMap_cons]
    cases builtBy? builder items <;> rfl
  have added : findAll addAt? body = [] := by
    rw [findAll_eq_foundIn, foundIn_laid statements
      (fun c gap => addAt?_of_head (isIdentifierStart_of_isGap gap)) (fun _ => none)
      (fun items behind tail _ => foundIn_addAt? items behind tail) laid .nil]
    rfl
  have sole := lists "Arrays.asList".toList List.mem_cons_self
  rw [builtBy?, if_pos rfl] at sole
  obtain ⟨list, found, names⟩ := List.map_eq_singleton_iff.mp sole
  have none : ∀ builder ∈ ListLiteral.builders, builder ≠ "Arrays.asList".toList →
      findAll (ListLiteral.at? builder) body = [] := by
    intro builder known other
    have empty := lists builder known
    rw [builtBy?, if_neg other] at empty
    exact List.map_eq_nil_iff.mp empty
  have literals : ListLiteral.findIn body = [list] := by
    rw [ListLiteral.findIn, ListLiteral.builders, List.flatMap_cons, List.flatMap_cons,
      List.flatMap_cons, found, none _ (by simp [ListLiteral.builders]) (by decide +kernel),
      none _ (by simp [ListLiteral.builders]) (by decide +kernel)]
    exact List.mergeSort_singleton list
  have sorted : groups body = [(list.start, items.map Identifier.text)] := by
    rw [groups, literals, added, List.map_singleton, names]
    exact List.mergeSort_singleton _
  rw [extract, sorted, List.flatMap_singleton, List.map_map]
  rfl

end QuestRecords.ItemReference
