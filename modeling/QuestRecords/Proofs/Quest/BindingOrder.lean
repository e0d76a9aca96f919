import QuestRecords.Proofs.Repetitions
import QuestRecords.Quest.ItemText

/-! The order in which variables are bound. Only the first text and the first alias of a variable
count, so bindings of different variables, or of different kinds, may be made in either order. An
alias that is added later leads on only from where nothing else did. -/
namespace QuestRecords

namespace Bindings

variable {Value : Type} {bindings : Bindings Value} {name : String}

theorem isBound_iff_mem_names : bindings.isBound name = true ↔ name ∈ bindings.names := by
  obtain ⟨entries⟩ := bindings
  change (entries.lookup name).isSome = true ↔ name ∈ entries.map (·.1)
  induction entries with
  | nil => simp
  | cons entry rest ih =>
    rw [List.map_cons, List.mem_cons, ← ih, lookup_cons_eq_ite]
    by_cases same : name = entry.1 <;> simp [same]

theorem ofList_concat (pairs : List (String × Value)) (pair : String × Value) :
    ofList (pairs ++ [pair]) = (ofList pairs).insertFirst pair.1 pair.2 := by
  rw [ofList, List.foldl_concat]
  rfl

theorem get?_ofList (pairs : List (String × Value)) (name : String) :
    (ofList pairs).get? name = pairs.lookup name :=
  get?_foldl_insertFirst pairs empty name

theorem names_ofList (pairs : List (String × Value)) :
    (ofList pairs).names = (pairs.map (·.1)).eraseDups := by
  induction pairs using List.reverseRecOn with
  | nil => rfl
  | append_singleton pairs pair ih =>
    rw [ofList_concat, insertFirst, List.map_append, List.map_singleton]
    by_cases met : pair.1 ∈ pairs.map (·.1)
    · have bound : (ofList pairs).isBound pair.1 = true := by
        rw [isBound_iff_mem_names, ih, List.mem_eraseDups]
        exact met
      rw [if_pos bound, eraseDups_concat_of_mem met, ih]
    · have free : ¬ (ofList pairs).isBound pair.1 = true := by
        rw [isBound_iff_mem_names, ih, List.mem_eraseDups]
        exact met
      rw [if_neg free, eraseDups_concat_of_notMem met, ← ih, names, names, List.map_append,
        List.map_singleton]

theorem size_ofList (pairs : List (String × Value)) :
    (ofList pairs).size = (pairs.map (·.1)).eraseDups.length := by
  rw [← names_ofList, names, List.length_map, size]

/-- Bindings that give every name the same value are the same but for their order. -/
theorem perm_ofList {pairs others : List (String × Value)}
    (same : ∀ name, pairs.lookup name = others.lookup name) :
    (ofList pairs).entries.Perm (ofList others).entries := by
  have distinct : ∀ pairs : List (String × Value), ((ofList pairs).entries.map (·.1)).Nodup := by
    intro pairs
    rw [← names, names_ofList]
    exact nodup_eraseDups _
  apply (List.perm_ext_iff_of_nodup (distinct pairs).of_map (distinct others).of_map).mpr
  rintro ⟨name, value⟩
  rw [← lookup_eq_some_iff_mem (distinct pairs), ← lookup_eq_some_iff_mem (distinct others),
    ← get?, ← get?, get?_ofList, get?_ofList, same]

end Bindings

theorem lookup_swap {Value : Type} {one other : String × Value} (apart : one.1 ≠ other.1)
    (before after : List (String × Value)) (name : String) :
    (before ++ one :: other :: after).lookup name =
      (before ++ other :: one :: after).lookup name := by
  rw [List.lookup_append, List.lookup_append, lookup_cons_eq_ite, lookup_cons_eq_ite,
    lookup_cons_eq_ite, lookup_cons_eq_ite]
  by_cases same : name = one.1
  · rw [if_pos same, if_neg (same ▸ apart), if_pos same]
  · rw [if_neg same, if_neg same]

/-- One step of setting up items: a variable is given a text, or made an alias of another one. -/
inductive ItemBinding where
  | direct (name display : String)
  | link (name base : String)
  deriving DecidableEq

namespace ItemBinding

def name : ItemBinding → String
  | direct name _ => name
  | link name _ => name

def isLink : ItemBinding → Bool
  | direct .. => false
  | link .. => true

def direct? : ItemBinding → Option (String × String)
  | direct name display => some (name, display)
  | link .. => none

def link? : ItemBinding → Option (String × String)
  | direct .. => none
  | link name base => some (name, base)

/-- Two bindings of different kinds or of different variables. -/
def Apart (first second : ItemBinding) : Prop :=
  first.isLink ≠ second.isLink ∨ first.name ≠ second.name

end ItemBinding

namespace ItemTexts

def add (texts : ItemTexts) : ItemBinding → ItemTexts
  | .direct name display => texts.bindText name display
  | .link name base => texts.bindAlias name base

/-- The texts and aliases that are set up step by step. -/
def ofList (bindings : List ItemBinding) : ItemTexts := bindings.foldl add {}

theorem ofList_concat (bindings : List ItemBinding) (binding : ItemBinding) :
    ofList (bindings ++ [binding]) = (ofList bindings).add binding := by
  rw [ofList, List.foldl_concat]
  rfl

/-- Texts and aliases are set up apart from each other, each in their own order. -/
theorem ofList_eq (bindings : List ItemBinding) : ofList bindings = {
    direct := .ofList (bindings.filterMap ItemBinding.direct?)
    aliases := .ofList (bindings.filterMap ItemBinding.link?) } := by
  induction bindings using List.reverseRecOn with
  | nil => rfl
  | append_singleton bindings binding ih =>
    rw [ofList_concat, ih, List.filterMap_append, List.filterMap_append]
    cases binding with
    | direct name display =>
      have shown : [ItemBinding.direct name display].filterMap ItemBinding.direct? =
        [(name, display)] := rfl
      have unlinked : [ItemBinding.direct name display].filterMap ItemBinding.link? = [] := rfl
      rw [shown, unlinked, List.append_nil, Bindings.ofList_concat]
      rfl
    | link name base =>
      have linked : [ItemBinding.link name base].filterMap ItemBinding.link? = [(name, base)] := rfl
      have unshown : [ItemBinding.link name base].filterMap ItemBinding.direct? = [] := rfl
      rw [linked, unshown, List.append_nil, Bindings.ofList_concat]
      rfl

theorem get?_direct_ofList (bindings : List ItemBinding) (name : String) :
    (ofList bindings).direct.get? name = (bindings.filterMap ItemBinding.direct?).lookup name := by
  rw [ofList_eq, Bindings.get?_ofList]

theorem get?_aliases_ofList (bindings : List ItemBinding) (name : String) :
    (ofList bindings).aliases.get? name = (bindings.filterMap ItemBinding.link?).lookup name := by
  rw [ofList_eq, Bindings.get?_ofList]

/-- The same texts and the same aliases, whatever their order. -/
structure Same (texts other : ItemTexts) : Prop where
  direct : texts.direct.entries.Perm other.direct.entries
  aliases : texts.aliases.entries.Perm other.aliases.entries

section

variable {texts other : ItemTexts} {passed : List String} {current base display : String}

theorem follow_of_bound (bound : texts.direct.get? current = some display) :
    texts.follow passed current = .resolved display passed.length := by
  rw [follow, bound]

theorem follow_of_passed (textless : texts.direct.get? current = none) (met : current ∈ passed) :
    texts.follow passed current = .cycle current := by
  rw [follow, textless]
  exact dif_pos met

theorem follow_of_linked (textless : texts.direct.get? current = none) (fresh : current ∉ passed)
    (linked : texts.aliases.get? current = some base) :
    texts.follow passed current = texts.follow (current :: passed) base := by
  rw [follow, textless]
  simp only [dif_neg fresh]
  split
  · rename_i found
    cases linked.symm.trans found
    rfl
  · rename_i missing
    cases linked.symm.trans missing

theorem follow_of_unlinked (textless : texts.direct.get? current = none) (fresh : current ∉ passed)
    (unlinked : texts.aliases.get? current = none) :
    texts.follow passed current = .missing current := by
  rw [follow, textless]
  simp only [dif_neg fresh]
  split
  · rename_i found
    cases unlinked.symm.trans found
  · rfl

theorem follow_congr (direct : ∀ name, texts.direct.get? name = other.direct.get? name)
    (aliases : ∀ name, texts.aliases.get? name = other.aliases.get? name) (passed : List String)
    (current : String) : texts.follow passed current = other.follow passed current := by
  fun_induction follow texts passed current with
  | case1 passed current display bound => rw [follow_of_bound (direct current ▸ bound)]
  | case2 passed current textless met => rw [follow_of_passed (direct current ▸ textless) met]
  | case3 passed current textless fresh base linked ih =>
    rw [follow_of_linked (direct current ▸ textless) fresh (aliases current ▸ linked), ih]
  | case4 passed current textless fresh unlinked =>
    rw [follow_of_unlinked (direct current ▸ textless) fresh (aliases current ▸ unlinked)]

/-- A further alias leads on from the variable at which a walk ended, and changes no other walk. -/
theorem follow_bindAlias (name base : String) (passed : List String) (current : String) :
    texts.follow passed current = .missing name ∨
      (texts.bindAlias name base).follow passed current = texts.follow passed current := by
  have kept : ∀ other, other ≠ name →
      (texts.bindAlias name base).aliases.get? other = texts.aliases.get? other := by
    intro other apart
    rw [bindAlias, Bindings.get?_insertFirst, if_neg apart]
  fun_induction follow texts passed current with
  | case1 passed current display bound => exact .inr (follow_of_bound bound)
  | case2 passed current textless met => exact .inr (follow_of_passed textless met)
  | case3 passed current textless fresh next linked ih =>
    -- The walk goes on as before even from the new name, for an alias that stands is kept.
    have still : (texts.bindAlias name base).aliases.get? current = some next := by
      rw [bindAlias, Bindings.get?_insertFirst]
      split
      · rename_i same
        rw [← same, linked, Option.getD_some]
      · exact linked
    have unshown : (texts.bindAlias name base).direct.get? current = none := textless
    rw [follow_of_linked unshown fresh still]
    exact ih
  | case4 passed current textless fresh unlinked =>
    by_cases same : current = name
    · exact .inl (same ▸ rfl)
    · exact .inr (follow_of_unlinked textless fresh ((kept current same).trans unlinked))

end

/-- Neighbours that bind different names may change places. -/
theorem lookup_filterMap_swap {select : ItemBinding → Option (String × String)}
    {first second : ItemBinding}
    (apart : ∀ one ∈ select first, ∀ other ∈ select second, one.1 ≠ other.1)
    (before after : List ItemBinding) (name : String) :
    ((before ++ first :: second :: after).filterMap select).lookup name =
      ((before ++ second :: first :: after).filterMap select).lookup name := by
  rw [List.filterMap_append, List.filterMap_append, List.filterMap_cons, List.filterMap_cons,
    List.filterMap_cons, List.filterMap_cons]
  cases one : select first with
  | none => rfl
  | some one' =>
    cases other : select second with
    | none => rfl
    | some other' => exact lookup_swap (apart one' one other' other) _ _ name

section

variable {first second : ItemBinding}

theorem lookup_direct_swap (apart : first.Apart second) (before after : List ItemBinding)
    (name : String) :
    ((before ++ first :: second :: after).filterMap ItemBinding.direct?).lookup name =
      ((before ++ second :: first :: after).filterMap ItemBinding.direct?).lookup name := by
  apply lookup_filterMap_swap
  intro one shown other shown'
  cases first <;> cases shown
  cases second <;> cases shown'
  exact apart.resolve_left (· rfl)

theorem lookup_link_swap (apart : first.Apart second) (before after : List ItemBinding)
    (name : String) :
    ((before ++ first :: second :: after).filterMap ItemBinding.link?).lookup name =
      ((before ++ second :: first :: after).filterMap ItemBinding.link?).lookup name := by
  apply lookup_filterMap_swap
  intro one linked other linked'
  cases first <;> cases linked
  cases second <;> cases linked'
  exact apart.resolve_left (· rfl)

theorem ofList_swap (apart : first.Apart second) (before after : List ItemBinding) :
    Same (ofList (before ++ first :: second :: after))
      (ofList (before ++ second :: first :: after)) := by
  rw [ofList_eq, ofList_eq]
  exact ⟨Bindings.perm_ofList (lookup_direct_swap apart before after),
    Bindings.perm_ofList (lookup_link_swap apart before after)⟩

theorem resolve_swap (apart : first.Apart second) (before after : List ItemBinding)
    (name : String) : (ofList (before ++ first :: second :: after)).resolve name =
      (ofList (before ++ second :: first :: after)).resolve name := by
  apply follow_congr
  · intro other
    rw [get?_direct_ofList, get?_direct_ofList, lookup_direct_swap apart]
  · intro other
    rw [get?_aliases_ofList, get?_aliases_ofList, lookup_link_swap apart]

end

/-- Of the bindings of a variable the first text and the first alias stand, and as many variables
have a text, or are aliases, as are named. Neighbours of different kinds or variables may change
places. A further alias changes what a variable leads to only if that was the unbound variable it is
made for. -/
theorem first_bindings_stand (bindings : List ItemBinding) :
    let texts := ofList bindings
    (∀ name,
      texts.direct.get? name = (bindings.filterMap ItemBinding.direct?).lookup name ∧
      texts.aliases.get? name = (bindings.filterMap ItemBinding.link?).lookup name) ∧
    texts.direct.size = ((bindings.filterMap ItemBinding.direct?).map (·.1)).eraseDups.length ∧
    texts.aliases.size = ((bindings.filterMap ItemBinding.link?).map (·.1)).eraseDups.length ∧
    (∀ before first second after, bindings = before ++ first :: second :: after →
      first.Apart second →
      let swapped := ofList (before ++ second :: first :: after)
      Same texts swapped ∧ ∀ name, texts.resolve name = swapped.resolve name) ∧
    ∀ name base other,
      (ofList (bindings ++ [.link name base])).resolve other ≠ texts.resolve other →
      texts.resolve other = .missing name := by
  refine ⟨?_, ?_, ?_, ?_, ?_⟩
  · exact fun name => ⟨get?_direct_ofList bindings name, get?_aliases_ofList bindings name⟩
  · rw [ofList_eq, Bindings.size_ofList]
  · rw [ofList_eq, Bindings.size_ofList]
  · rintro before first second after rfl apart
    exact ⟨ofList_swap apart before after, resolve_swap apart before after⟩
  · intro name base other changed
    rw [ofList_concat] at changed
    exact (follow_bindAlias name base [] other).resolve_right changed

/-- An alias that is made twice and leads to no text, beside a variable that is given two texts. -/
def lights : List ItemBinding :=
  [.link "light" "torch", .direct "rope" "Rope", .direct "rope" "Long rope", .link "light" "rope"]

theorem first_bindings_stand_lights :
    (ofList lights).direct.get? "rope" = some "Rope" ∧ (ofList lights).aliases.size = 1 ∧
    (ofList lights).resolve "light" = (ofList [.direct "rope" "Rope", .link "light" "torch",
      .direct "rope" "Long rope", .link "light" "rope"]).resolve "light" ∧
    (ofList (lights ++ [.link "torch" "rope"])).resolve "light" = .resolved "Rope" 2 ∧
    (ofList lights).resolve "light" = .missing "torch" := by
  obtain ⟨held, -, links, swapped, later⟩ := first_bindings_stand lights
  have led : (ofList (lights ++ [.link "torch" "rope"])).resolve "light" = .resolved "Rope" 2 := by
    rw [resolve, follow_of_linked rfl (by decide) rfl, follow_of_linked rfl (by decide) rfl,
      follow_of_bound rfl]
    rfl
  have ended : (ofList lights).resolve "light" = .missing "torch" := by
    rw [resolve, follow_of_linked rfl (by decide) rfl, follow_of_unlinked rfl (by decide) rfl]
  have changed : (ofList (lights ++ [.link "torch" "rope"])).resolve "light" ≠
      (ofList lights).resolve "light" := by
    rw [led, ended]
    decide
  have apart : (ItemBinding.link "light" "torch").Apart (.direct "rope" "Rope") := .inl (by decide)
  obtain ⟨-, same⟩ := swapped [] _ _ _ rfl apart
  exact ⟨(held "rope").1.trans rfl, links.trans rfl, same "light", led,
    later "torch" "rope" "light" changed⟩

end ItemTexts
end QuestRecords
