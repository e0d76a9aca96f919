import QuestRecords.Proofs.Source.AssignedObjects
import QuestRecords.Proofs.Source.ListReaders
import QuestRecords.Proofs.Source.PlacedArguments
import QuestRecords.Quest.ItemReference

/-! In which order the items of a body are named. They come expression by expression, in the order in
which the list literals and `add` calls begin, and inside of each in the order of its arguments. An
expression may stand among the arguments of another one; so the names come in the order of the body
unless a name of the outer expression stands behind one of the inner. -/
namespace QuestRecords.ItemReference

open Source Text Reader

/-- What the name of a builder at a place leaves, gaps aside. -/
def behindBuilder? (site : Site) (builder : Text) : Option Text :=
  (after? builder site.ahead).bind fun rest =>
    if site.behind.head?.any ListLiteral.continuesName then none else some (skipGaps rest)

/-- The list literal at a place, as a call of its builder. -/
def listCall? (site : Site) : Option Call :=
  ListLiteral.builders.findSome? fun builder =>
    (behindBuilder? site builder).bind (Call.ofParen? site)

/-- The call of `add` at a place. -/
def addCall? (site : Site) : Option Call := (methodCall? "add" site).bind (Call.ofParen? site)

/-- The list literal or the call of `add` at a place. -/
def call? (site : Site) : Option Call := (listCall? site).or (addCall? site)

/-- The list literals and the calls of `add` of a body, in the order in which they begin. -/
def calls (body : Text) : List Call := findAll call? body

/-- The identifiers among the arguments of a call, each with the offset at which it stands. -/
def names (call : Call) : List (Nat × Text) :=
  call.placedArguments.filter fun placed => isIdentifier placed.2

/-- The items that are named in a body, each with the offset at which it stands, in the order in which
they are extracted. -/
def mentions (body : Text) : List (Nat × Text) := (calls body).flatMap names

def group (call : Call) : Nat × List Text := (call.start, identifiersIn call.args)

theorem map_names (call : Call) : (names call).map (·.2) = identifiersIn call.args := by
  have arguments := congrArg (List.filter isIdentifier) call.map_snd_placedArguments
  rwa [List.filter_map] at arguments

section

variable {site : Site}

theorem start_of_ofParen? {paren : Text} {call : Call}
    (read : Call.ofParen? site paren = some call) : call.start = site.offset := by
  obtain ⟨parts, -, rfl⟩ := Option.map_eq_some_iff.mp read
  rfl

theorem anyAt?_eq (site : Site) :
    (ListLiteral.anyAt? site).map (fun list => (list.start, list.identifiers)) =
      (listCall? site).map group := by
  rw [ListLiteral.anyAt?, listCall?, List.map_findSome?, List.map_findSome?]
  congr 1
  funext builder
  rw [Function.comp_apply, Function.comp_apply, ListLiteral.at?, behindBuilder?]
  cases after? builder site.ahead with
  | none => rfl
  | some rest =>
    by_cases continues : site.behind.head?.any ListLiteral.continuesName = true
    · simp [continues]
    · cases read : parenthesised? (skipGaps rest) with
      | none => simp [continues, Call.ofParen?, read]
      | some parts => simp [continues, Call.ofParen?, read, group]

theorem addAt?_eq (site : Site) : addAt? site = (addCall? site).map group := by
  rw [addAt?, addCall?]
  cases methodCall? "add" site with
  | none => rfl
  | some paren =>
    cases read : parenthesised? paren with
    | none => simp [Call.ofParen?, read]
    | some parts => simp [Call.ofParen?, read, group]

theorem methodCall?_of_builder {builder : Text} (known : builder ∈ ListLiteral.builders)
    (begins : builder <+: site.ahead) : methodCall? "add" site = none := by
  have dotted : ∃ family c method, builder = family ++ '.' :: c :: method ∧ IsName family ∧
      isBlank c = false ∧ ∀ rest, word? "add" (c :: (method ++ rest)) = none := by
    simp only [ListLiteral.builders, List.mem_cons, List.not_mem_nil, or_false] at known
    rcases known with rfl | rfl | rfl
    · exact ⟨"Arrays".toList, 'a', "sList".toList, by decide +kernel,
        .named (by decide) (List.all_eq_true.mp (by decide +kernel)), by decide, fun _ => rfl⟩
    · exact ⟨"List".toList, 'o', "f".toList, by decide +kernel,
        .named (by decide) (List.all_eq_true.mp (by decide +kernel)), by decide, fun _ => rfl⟩
    · exact ⟨"Collections".toList, 's', "ingletonList".toList, by decide +kernel,
        .named (by decide) (List.all_eq_true.mp (by decide +kernel)), by decide, fun _ => rfl⟩
  obtain ⟨family, c, method, rfl, isName, solid, other⟩ := dotted
  obtain ⟨rest, whole⟩ := begins
  have apart : isWord '.' = false := by decide +kernel
  have named := name?_eq_some_iff.mpr
    ⟨Eq.refl (family ++ '.' :: c :: (method ++ rest)), isName, apart⟩
  have dot : spacedChar? '.' ('.' :: c :: (method ++ rest)) = some (c :: (method ++ rest)) :=
    (spacedChar?_eq_some_iff (by decide)).mpr ⟨[], rfl, List.forall_mem_nil _⟩
  have method? : skipBlanks (c :: (method ++ rest)) = c :: (method ++ rest) :=
    List.dropWhile_cons_of_neg (by simp [solid])
  have ahead : site.ahead = family ++ '.' :: c :: (method ++ rest) := by simp [← whole]
  rw [methodCall?, ahead, named]
  by_cases starts : startsWord site = true
  · simp [starts, dot, method?, other]
  · simp [starts]

theorem listCall?_eq_some {call : Call} (read : listCall? site = some call) :
    ∃ builder ∈ ListLiteral.builders, builder <+: site.ahead ∧ ∃ header paren,
      site.ahead = header ++ paren ∧ Call.ofParen? site paren = some call := by
  obtain ⟨builder, known, read⟩ := List.exists_of_findSome?_eq_some read
  obtain ⟨paren, behind, called⟩ := Option.bind_eq_some_iff.mp read
  obtain ⟨rest, begins, behind⟩ := Option.bind_eq_some_iff.mp behind
  obtain ⟨-, same⟩ := Option.ite_none_left_eq_some.mp behind
  cases same
  have whole := after?_eq_some_iff.mp begins
  refine ⟨builder, known, ⟨rest, whole.symm⟩, builder ++ rest.takeWhile isGap, skipGaps rest, ?_,
    called⟩
  rw [List.append_assoc, Offsets.takeWhile_append_skipGaps, whole]

/-- What stands at a place is read as a list literal or as a call of `add`, never as both. -/
theorem addCall?_of_listCall? {call : Call} (read : listCall? site = some call) :
    addCall? site = none := by
  obtain ⟨builder, known, begins, -⟩ := listCall?_eq_some read
  rw [addCall?, methodCall?_of_builder known begins, Option.bind_none]

theorem exists_ofParen?_of_call? {call : Call} (read : call? site = some call) :
    ∃ header paren, site.ahead = header ++ paren ∧ Call.ofParen? site paren = some call := by
  rcases Option.or_eq_some_iff.mp read with list | ⟨-, add⟩
  · obtain ⟨-, -, -, called⟩ := listCall?_eq_some list
    exact called
  · obtain ⟨paren, method, called⟩ := Option.bind_eq_some_iff.mp add
    obtain ⟨header, split⟩ := methodCall?_suffix method
    exact ⟨header, paren, split.symm, called⟩

/-- The arguments of a call stand behind its beginning and end before it does. -/
theorem bounds_of_ofParen? {paren : Text} {call : Call}
    (read : Call.ofParen? site paren = some call) :
    call.start < call.argsStart ∧ call.argsStart + width call.args < call.stop := by
  obtain ⟨parts, -, rfl⟩ := Option.map_eq_some_iff.mp read
  constructor
  · show site.offset < site.offset + width (upTo site.ahead paren) + 1
    omega
  · exact Nat.lt_succ_self _

theorem start_of_call? {call : Call} (read : call? site = some call) :
    call.start = site.offset := by
  obtain ⟨header, paren, -, called⟩ := exists_ofParen?_of_call? read
  exact start_of_ofParen? called

end

/-- The groups of identifiers, sorted by offset, are those of the calls in the order of the body. -/
theorem groups_eq (body : Text) : groups body = (calls body).map group := by
  have sole : ∀ site, [fun site => (listCall? site).map group, addAt?].filterMap (· site) =
      ((call? site).map group).toList := by
    intro site
    cases list : listCall? site with
    | none =>
      rw [call?, list, Option.none_or, ← addAt?_eq]
      cases added : addAt? site <;> simp [list, added]
    | some call =>
      have added : addAt? site = none := by
        rw [addAt?_eq, addCall?_of_listCall? list, Option.map_none]
      simp [call?, list, added]
  have located : ∀ site found, (call? site).map group = some found → found.1 = site.offset := by
    intro site found grouped
    obtain ⟨call, read, rfl⟩ := Option.map_eq_some_iff.mp grouped
    exact start_of_call? read
  have sorted := mergeSort_findAll sole located body
  have lists : (ListLiteral.findIn body).map (fun list => (list.start, list.identifiers)) =
      findAll (fun site => (listCall? site).map group) body := by
    rw [ListLiteral.findIn_eq, findAll, List.map_filterMap, funext anyAt?_eq]
    rfl
  have mapped : (calls body).map group = findAll (fun site => (call? site).map group) body :=
    List.map_filterMap
  rw [groups, lists, mapped, ← sorted, List.flatMap_cons, List.flatMap_singleton]

theorem extract_eq (body : Text) :
    extract body = (mentions body).map fun mention => String.ofList mention.2 := by
  rw [extract, groups_eq, mentions, List.map_flatMap, List.flatMap_map]
  apply List.flatMap_congr
  intro call _
  rw [group, ← map_names, List.map_map]
  rfl

section

variable {body : Text} {call : Call}

theorem pairwise_calls (body : Text) :
    (calls body).Pairwise fun earlier later => earlier.start < later.start :=
  pairwise_filterMap_sitesFrom (fun _ _ => start_of_call?) [] body

theorem pairwise_names (call : Call) :
    (names call).Pairwise fun earlier later => earlier.1 < later.1 :=
  call.pairwise_placedArguments.filter _

/-- An identifier among the arguments of a call stands at its offset, inside of the call. -/
theorem stands_of_mem_names (found : call ∈ calls body) {mention : Nat × Text}
    (named : mention ∈ names call) :
    body.slice? mention.1 (mention.1 + width mention.2) = some mention.2 ∧
      call.start < mention.1 ∧ mention.1 + width mention.2 < call.stop := by
  obtain ⟨site, place, read⟩ := List.mem_filterMap.mp found
  obtain ⟨header, paren, split, called⟩ := exists_ofParen?_of_call? read
  obtain ⟨begins, ends⟩ := bounds_of_ofParen? called
  obtain ⟨before, after, whole, argsStart, -⟩ := exists_append_of_ofParen? split called
  obtain ⟨left, right, args, offset⟩ := Call.exists_append_of_mem_placed (List.mem_filter.mp named).1
  have inside : width call.args = width left + width mention.2 + width right := by
    rw [args, width_append, width_append]
  refine ⟨?_, by omega, by omega⟩
  rw [Offsets.text_of_mem_sites place, args] at whole
  refine slice?_of_append (before ++ left) (right ++ ')' :: after) ?_ ?_ ?_
  · simp [whole]
  · rw [width_append, offset, argsStart]
  · rw [width_append, offset, argsStart]

end

/-- The items come in the order of the body: each stands behind the one before it. -/
def InSourceOrder (body : Text) : Prop :=
  (mentions body).Pairwise fun earlier later => earlier.1 < later.1

/-- The extracted names are the identifiers among the arguments of the list literals and `add` calls
of the body. Each stands at its offset. The literals and calls are taken in the order in which they
begin and the names of each in the order in which they stand inside of it. So all of them come in
source order exactly when, wherever one literal or call stands inside of another, the names of the
outer one stand before those of the inner one. -/
theorem inSourceOrder_iff (body : Text) :
    extract body = (mentions body).map (fun mention => String.ofList mention.2) ∧
    (∀ mention ∈ mentions body, isIdentifier mention.2 = true ∧
      body.slice? mention.1 (mention.1 + width mention.2) = some mention.2) ∧
    ((calls body).Pairwise fun earlier later => earlier.start < later.start) ∧
    (∀ call ∈ calls body,
      ((names call).Pairwise fun earlier later => earlier.1 < later.1) ∧
      ∀ mention ∈ names call,
        call.start < mention.1 ∧ mention.1 + width mention.2 < call.stop) ∧
    (InSourceOrder body ↔
      ∀ outer ∈ calls body, ∀ inner ∈ calls body,
        outer.start < inner.start → inner.start < outer.stop →
        ∀ own ∈ names outer, ∀ nested ∈ names inner, own.1 < nested.1) := by
  refine ⟨extract_eq body, ?_, pairwise_calls body, ?_, ?_⟩
  · intro mention member
    obtain ⟨call, found, named⟩ := List.mem_flatMap.mp member
    exact ⟨(List.mem_filter.mp named).2, (stands_of_mem_names found named).1⟩
  · exact fun call found =>
      ⟨pairwise_names call, fun mention named => (stands_of_mem_names found named).2⟩
  · rw [InSourceOrder, mentions, List.pairwise_flatMap,
      pairwise_iff_of_pairwise (pairwise_calls body)]
    constructor
    · rintro ⟨-, ordered⟩ outer outside inner inside before -
      exact ordered outer outside inner inside before
    · intro nested
      refine ⟨fun call _ => pairwise_names call, ?_⟩
      intro left inLeft right inRight before own named other among
      rcases Nat.lt_or_ge right.start left.stop with inside | apart
      · exact nested left inLeft right inRight before inside own named other among
      · -- Every name of the call on the left stands before the call on the right begins.
        have ends := (stands_of_mem_names inLeft named).2.2
        have begins := (stands_of_mem_names inRight among).2.1
        omega

/-- A list literal among the arguments of another one, and an identifier behind it. -/
def listInside : Text :=
  "return Arrays.asList(new ItemRequirements(\"Light\", List.of(torch, lantern)), rope);".toList

/-- The rope is named behind the torch and the lantern and comes before them. -/
theorem rope_first :
    extract listInside = ["rope", "torch", "lantern"] ∧
      (mentions listInside).map (·.1) = [77, 59, 66] ∧ ¬InSourceOrder listInside := by
  have found : mentions listInside =
      [(77, "rope".toList), (59, "torch".toList), (66, "lantern".toList)] := by decide +kernel
  refine ⟨?_, ?_, ?_⟩
  · rw [extract_eq, found]
    rfl
  · rw [found]
    rfl
  · rw [InSourceOrder, found]
    decide

end QuestRecords.ItemReference
