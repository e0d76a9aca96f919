import QuestRecords.Proofs.Quest.FirstMentions
import QuestRecords.Quest.Assembly

/-! The items of a record and the references that lead to none. Reading references one by one, a
reference adds its text at the end when it is the first one to lead there, changes nothing when the
text is listed already, and is left over when it leads to no text. -/
namespace QuestRecords.Assembly

/-- A reference leads to a text. -/
def LeadsTo (items : ItemTexts) (reference text : String) : Prop :=
  ∃ depth, items.resolve reference = .resolved text depth

/-- A reference leads to no text: its aliases end at an unbound name, or never. -/
def LeadsNowhere (items : ItemTexts) (reference : String) : Prop :=
  (∃ last, items.resolve reference = .missing last) ∨
    ∃ repeated, items.resolve reference = .cycle repeated

section

variable {items : ItemTexts} {reference text : String}

theorem leadsTo_iff :
    LeadsTo items reference text ↔ (items.resolve reference).display? = some text := by
  rw [LeadsTo]
  cases items.resolve reference <;> simp [Resolution.display?]

theorem leadsNowhere_iff :
    LeadsNowhere items reference ↔ (items.resolve reference).display? = none := by
  rw [LeadsNowhere]
  cases items.resolve reference <;> simp [Resolution.display?]

instance : Decidable (LeadsTo items reference text) := decidable_of_iff' _ leadsTo_iff

instance : Decidable (LeadsNowhere items reference) := decidable_of_iff' _ leadsNowhere_iff

end

/-- The position of the first reference that leads to a text. -/
def firstReference (items : ItemTexts) (references : List String) (text : String) : Nat :=
  references.findIdx fun reference => LeadsTo items reference text

section

variable {items : ItemTexts} {references : List String} {reference text : String}

theorem LeadsTo.unique {other : String} (leads : LeadsTo items reference text) :
    LeadsTo items reference other ↔ other = text := by
  rw [leadsTo_iff, leadsTo_iff.mp leads, Option.some_inj, eq_comm]

theorem LeadsTo.not_leadsNowhere (leads : LeadsTo items reference text) :
    ¬ LeadsNowhere items reference := by
  rw [leadsNowhere_iff, leadsTo_iff.mp leads]
  exact Option.some_ne_none text

theorem LeadsNowhere.not_leadsTo (nowhere : LeadsNowhere items reference) (text : String) :
    ¬ LeadsTo items reference text :=
  fun leads => leads.not_leadsNowhere nowhere

theorem exists_leadsTo_concat :
    (∃ other ∈ references ++ [reference], LeadsTo items other text) ↔
      (∃ other ∈ references, LeadsTo items other text) ∨ LeadsTo items reference text := by
  simp [or_and_right, exists_or]

theorem firstReference_lt_length_iff : firstReference items references text < references.length ↔
    ∃ reference ∈ references, LeadsTo items reference text := by
  simp [firstReference, List.findIdx_lt_length]

theorem firstReference_append (met : ∃ reference ∈ references, LeadsTo items reference text)
    (more : List String) :
    firstReference items (references ++ more) text = firstReference items references text := by
  rw [firstReference, List.findIdx_append]
  exact if_pos (firstReference_lt_length_iff.mpr met)

theorem length_le_firstReference (fresh : ¬ ∃ reference ∈ references, LeadsTo items reference text)
    (more : List String) : references.length ≤ firstReference items (references ++ more) text := by
  have beyond := mt firstReference_lt_length_iff.mp fresh
  rw [firstReference] at beyond
  rw [firstReference, List.findIdx_append, if_neg beyond]
  exact Nat.le_add_left _ _

end

/-- The texts that are listed for references, and the references that are left over. -/
structure Resolves (items : ItemTexts) (references texts left : List String) : Prop where
  distinct : texts.Nodup
  listed : ∀ text, text ∈ texts ↔ ∃ reference ∈ references, LeadsTo items reference text
  ordered : texts.Pairwise fun earlier later =>
    firstReference items references earlier < firstReference items references later
  left : left = references.filter fun reference => LeadsNowhere items reference

namespace Resolves

variable {items : ItemTexts} {references texts left : List String} {reference text : String}

theorem start (items : ItemTexts) : Resolves items [] [] [] :=
  ⟨.nil, by simp, .nil, rfl⟩

/-- The order of the listed texts is settled by the references up to here. -/
theorem ordered_append (resolves : Resolves items references texts left) (more : List String) :
    texts.Pairwise fun earlier later =>
      firstReference items (references ++ more) earlier <
        firstReference items (references ++ more) later := by
  apply List.Pairwise.imp_of_mem _ resolves.ordered
  intro earlier later listed listed' before
  rw [firstReference_append ((resolves.listed earlier).mp listed),
    firstReference_append ((resolves.listed later).mp listed')]
  exact before

theorem left_of_leadsTo (resolves : Resolves items references texts left)
    (leads : LeadsTo items reference text) :
    left = (references ++ [reference]).filter fun reference => LeadsNowhere items reference := by
  rw [List.filter_append, List.filter_cons_of_neg (by simpa using leads.not_leadsNowhere),
    List.filter_nil, List.append_nil, resolves.left]

theorem again (resolves : Resolves items references texts left)
    (leads : LeadsTo items reference text) (met : text ∈ texts) :
    Resolves items (references ++ [reference]) texts left := by
  refine ⟨resolves.distinct, ?_, resolves.ordered_append [reference],
    resolves.left_of_leadsTo leads⟩
  intro other
  rw [exists_leadsTo_concat, ← resolves.listed, leads.unique]
  exact (or_iff_left_of_imp fun same => same ▸ met).symm

theorem first (resolves : Resolves items references texts left)
    (leads : LeadsTo items reference text) (fresh : text ∉ texts) :
    Resolves items (references ++ [reference]) (texts ++ [text]) left := by
  refine ⟨?_, ?_, ?_, resolves.left_of_leadsTo leads⟩
  · rw [← List.concat_eq_append, List.nodup_concat]
    exact ⟨fresh, resolves.distinct⟩
  · intro other
    rw [exists_leadsTo_concat, ← resolves.listed, leads.unique, List.mem_append,
      List.mem_singleton]
  · rw [List.pairwise_append]
    refine ⟨resolves.ordered_append [reference], List.pairwise_singleton _ _, ?_⟩
    intro earlier listed later last
    rw [List.mem_singleton.mp last]
    -- The new text is found at no reference before the last one, and the earlier text at one.
    calc firstReference items (references ++ [reference]) earlier
        = firstReference items references earlier :=
          firstReference_append ((resolves.listed earlier).mp listed) [reference]
      _ < references.length :=
          firstReference_lt_length_iff.mpr ((resolves.listed earlier).mp listed)
      _ ≤ firstReference items (references ++ [reference]) text :=
          length_le_firstReference (mt (resolves.listed text).mpr fresh) [reference]

theorem nowhere (resolves : Resolves items references texts left)
    (nowhere : LeadsNowhere items reference) :
    Resolves items (references ++ [reference]) texts (left ++ [reference]) := by
  refine ⟨resolves.distinct, ?_, resolves.ordered_append [reference], ?_⟩
  · intro other
    rw [exists_leadsTo_concat, ← resolves.listed]
    exact (or_iff_left (nowhere.not_leadsTo other)).symm
  · rw [List.filter_append, List.filter_cons_of_pos (by simpa using nowhere), List.filter_nil,
      resolves.left]

/-- A reference is left over or leads to a listed text. -/
theorem not_mem_left_iff (resolves : Resolves items references texts left)
    (here : reference ∈ references) :
    reference ∉ left ↔ ∃ text ∈ texts, LeadsTo items reference text := by
  have kept : reference ∈ left ↔ LeadsNowhere items reference := by
    rw [resolves.left, List.mem_filter, and_iff_right here, decide_eq_true_iff]
  rw [kept, leadsNowhere_iff, ← ne_eq, Option.ne_none_iff_exists']
  constructor
  · rintro ⟨text, shown⟩
    have leads := leadsTo_iff.mpr shown
    exact ⟨text, (resolves.listed text).mpr ⟨reference, here, leads⟩, leads⟩
  · rintro ⟨text, -, leads⟩
    exact ⟨text, leadsTo_iff.mp leads⟩

end Resolves

section

variable {items : ItemTexts} {references : List String} {reference text : String}

theorem itemTexts_concat (leads : LeadsTo items reference text) :
    itemTexts items (references ++ [reference]) =
      if text ∈ itemTexts items references then itemTexts items references
      else itemTexts items references ++ [text] := by
  have shown :
      [reference].filterMap (fun reference => (items.resolve reference).display?) = [text] := by
    simp [leadsTo_iff.mp leads]
  simp only [itemTexts, List.filterMap_append, shown, Requirement.firstOccurrences_concat,
    Requirement.mem_firstOccurrences]

theorem unresolved_concat (leads : LeadsTo items reference text) :
    unresolved items (references ++ [reference]) = unresolved items references := by
  rw [unresolved, List.filter_append, List.filter_cons_of_neg (by simp [leadsTo_iff.mp leads]),
    List.filter_nil, List.append_nil, unresolved]

theorem itemTexts_concat_nowhere (nowhere : LeadsNowhere items reference) :
    itemTexts items (references ++ [reference]) = itemTexts items references := by
  have shown : [reference].filterMap (fun reference => (items.resolve reference).display?) = [] := by
    simp [leadsNowhere_iff.mp nowhere]
  rw [itemTexts, List.filterMap_append, shown, List.append_nil, itemTexts]

theorem unresolved_concat_nowhere (nowhere : LeadsNowhere items reference) :
    unresolved items (references ++ [reference]) = unresolved items references ++ [reference] := by
  rw [unresolved, List.filter_append,
    List.filter_cons_of_pos (by simp [leadsNowhere_iff.mp nowhere]), List.filter_nil, unresolved]

end

/-- The texts and the left-over references of a record, reference by reference. -/
theorem resolves_itemTexts (items : ItemTexts) (references : List String) :
    Resolves items references (itemTexts items references) (unresolved items references) := by
  induction references using List.reverseRecOn with
  | nil => exact .start items
  | append_singleton references reference ih =>
    cases shown : (items.resolve reference).display? with
    | none =>
      have nowhere := leadsNowhere_iff.mpr shown
      rw [itemTexts_concat_nowhere nowhere, unresolved_concat_nowhere nowhere]
      exact ih.nowhere nowhere
    | some text =>
      have leads := leadsTo_iff.mpr shown
      rw [itemTexts_concat leads, unresolved_concat leads]
      split
      · rename_i met
        exact ih.again leads met
      · rename_i fresh
        exact ih.first leads fresh

theorem prefix_itemTexts (items : ItemTexts) (references more : List String) :
    itemTexts items references <+: itemTexts items (references ++ more) := by
  rw [itemTexts, itemTexts, List.filterMap_append]
  exact Requirement.firstOccurrences_prefix _ _

theorem prefix_unresolved (items : ItemTexts) (references more : List String) :
    unresolved items references <+: unresolved items (references ++ more) := by
  rw [unresolved, unresolved, List.filter_append]
  exact List.prefix_append _ _

/-- The references of a record are parted: left over are, in order and with repetitions, exactly
those whose aliases end at an unbound variable or in a cycle, and all others lead to a listed text.
Each text that some reference leads to is listed once, and the texts come in the order of the first
references to them. References that are put behind the others remove and reorder nothing. -/
theorem items_partitioned (items : ItemTexts) (references : List String) :
    unresolved items references = references.filter (fun reference => LeadsNowhere items reference) ∧
      (∀ reference, reference ∈ references ∧ reference ∉ unresolved items references ↔
        reference ∈ references ∧ ∃ text ∈ itemTexts items references, LeadsTo items reference text) ∧
      (itemTexts items references).Nodup ∧
      (∀ text, text ∈ itemTexts items references ↔
        ∃ reference ∈ references, LeadsTo items reference text) ∧
      ((itemTexts items references).Pairwise fun earlier later =>
        firstReference items references earlier < firstReference items references later) ∧
      ∀ more, itemTexts items references <+: itemTexts items (references ++ more) ∧
        unresolved items references <+: unresolved items (references ++ more) := by
  have resolves := resolves_itemTexts items references
  refine ⟨resolves.left, fun reference => ?_, resolves.distinct, resolves.listed, resolves.ordered,
    fun more => ⟨prefix_itemTexts items references more, prefix_unresolved items references more⟩⟩
  exact and_congr_right fun here => resolves.not_mem_left_iff here

end QuestRecords.Assembly
