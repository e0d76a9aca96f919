import QuestRecords.Pipeline.Attempt
import QuestRecords.Proofs.Quest.AliasChain
import QuestRecords.Proofs.Quest.FirstMentions
import QuestRecords.Proofs.Quest.ReturnedItems
import QuestRecords.Proofs.Quest.SetupStatements
import QuestRecords.Proofs.Source.ClassSource

/-! The required items of a quest, from the statements that set them up to the record. The record
shows each item that is referred to under the text that its name leads to, alias by alias, whatever
the order in which texts and aliases were bound. -/
namespace QuestRecords

open Source Text

namespace SetupStatement

section

variable (setup : List SetupStatement)

/-- The text that is first bound to a name. -/
def boundText? (name : String) : Option String := (setup.filterMap direct?).lookup name

/-- The name that a name is first made from. -/
def base? (name : String) : Option String := (setup.filterMap alias?).lookup name

/-- The name that a number of aliases lead to from a name. -/
def leadsTo (name : String) : Nat → Option String
  | 0 => some name
  | depth + 1 => (leadsTo name depth).bind (base? setup)

/-- No name that another leads to has a text, up to a number of aliases. -/
def TextlessBelow (name : String) (bound : Nat) : Prop :=
  ∀ depth < bound, ∀ passed, leadsTo setup name depth = some passed → boundText? setup passed = none

/-- The first name with a text that a name leads to has this text. -/
def Shows (name text : String) : Prop :=
  ∃ depth member, leadsTo setup name depth = some member ∧ boundText? setup member = some text ∧
    TextlessBelow setup name depth

/-- A name leads, over names without a text, to a name that is bound to nothing. -/
def EndsUnbound (name : String) : Prop :=
  ∃ depth last, leadsTo setup name depth = some last ∧ base? setup last = none ∧
    TextlessBelow setup name (depth + 1)

/-- A name leads from one name without a text to the next for ever. -/
def NeverEnds (name : String) : Prop :=
  ∀ depth, (leadsTo setup name depth).isSome ∧ TextlessBelow setup name depth

end

section

variable {setup : List SetupStatement} {texts : ItemTexts}

theorem chain_eq (aliases : ∀ name, texts.aliases.get? name = base? setup name) (name : String)
    (depth : Nat) : texts.chain name depth = leadsTo setup name depth := by
  induction depth with
  | zero => rfl
  | succ depth ih => rw [ItemTexts.chain, leadsTo, ih, funext aliases]

variable (direct : ∀ name, texts.direct.get? name = boundText? setup name)
  (aliases : ∀ name, texts.aliases.get? name = base? setup name)
include direct aliases

theorem textlessAt_iff {name : String} {bound : Nat} :
    (∀ depth < bound, texts.TextlessAt name depth) ↔ TextlessBelow setup name bound := by
  simp only [ItemTexts.TextlessAt, TextlessBelow, chain_eq aliases, direct]

theorem display?_eq_some_iff {name text : String} :
    (texts.resolve name).display? = some text ↔ Shows setup name text := by
  have resolved : (texts.resolve name).display? = some text ↔
      ∃ depth, texts.resolve name = .resolved text depth := by
    cases texts.resolve name <;> simp [Resolution.display?]
  rw [resolved]
  apply exists_congr
  intro depth
  rw [ItemTexts.resolve_eq_resolved_iff, textlessAt_iff direct aliases, chain_eq aliases]
  simp only [direct]
  constructor
  · rintro ⟨⟨member, here, bound⟩, textless⟩
    exact ⟨member, here, bound, textless⟩
  · rintro ⟨member, here, bound, textless⟩
    exact ⟨⟨member, here, bound⟩, textless⟩

theorem display?_eq_none_iff {name : String} :
    (texts.resolve name).display? = none ↔ EndsUnbound setup name ∨ NeverEnds setup name := by
  have split : (texts.resolve name).display? = none ↔
      (∃ last, texts.resolve name = .missing last) ∨
        ∃ repeated, texts.resolve name = .cycle repeated := by
    cases texts.resolve name <;> simp [Resolution.display?]
  rw [split]
  constructor
  · rintro (⟨last, found⟩ | ⟨repeated, found⟩)
    · obtain ⟨textless, depth, here, unlinked⟩ := ItemTexts.resolve_eq_missing_iff.mp found
      rw [chain_eq aliases] at here
      rw [aliases] at unlinked
      exact .inl ⟨depth, last, here, unlinked,
        (textlessAt_iff direct aliases).mp fun depth _ => textless depth⟩
    · obtain ⟨endless, textless⟩ := ItemTexts.exists_resolve_eq_cycle_iff.mp ⟨repeated, found⟩
      right
      intro depth
      rw [← chain_eq aliases]
      exact ⟨endless depth, (textlessAt_iff direct aliases).mp fun depth _ => textless depth⟩
  · rintro (⟨depth, last, here, unlinked, textless⟩ | endless)
    · rw [← chain_eq aliases] at here
      rw [← aliases] at unlinked
      have ended : texts.chain name (depth + 1) = none := by
        rw [ItemTexts.chain, here, Option.bind_some, unlinked]
      refine .inl ⟨last, ItemTexts.resolve_eq_missing_iff.mpr ⟨?_, depth, here, unlinked⟩⟩
      -- The chain has no member beyond the unbound name, so none with a text.
      intro later
      by_cases below : later < depth + 1
      · exact (textlessAt_iff direct aliases).mpr textless later below
      · intro member met
        rw [ItemTexts.chain_eq_none_of_le ended (Nat.le_of_not_lt below)] at met
        cases met
    · refine .inr (ItemTexts.exists_resolve_eq_cycle_iff.mpr ⟨?_, ?_⟩)
      · intro depth
        rw [chain_eq aliases]
        exact (endless depth).1
      · intro depth
        exact (textlessAt_iff direct aliases).mpr (endless (depth + 1)).2 depth
          (Nat.lt_succ_self depth)

end

end SetupStatement

def itemSource (className : Identifier) (setupBody itemsBody : Text) : Text :=
  classSource className "setupRequirements".toList setupBody "ItemRequirement".toList
    "getItemRequirements".toList itemsBody

/-- Required items survive from the statements that set them up to the record. -/
theorem itemRequirements_shown {setup : List SetupStatement} {references : List Identifier}
    {setupBody itemsBody : Text} (laid : Laid SetupStatement.text setup setupBody)
    (returned : Laid ItemReference.returned [references] itemsBody) :
    (∃ shown : String → Option String,
      (∀ name text, shown name = some text ↔ SetupStatement.Shows setup name text) ∧
      (∀ name, shown name = none ↔
        SetupStatement.EndsUnbound setup name ∨ SetupStatement.NeverEnds setup name) ∧
      ∀ source displayName, QuestMember.setupRequirements.body? source = some setupBody →
        QuestMember.itemRequirements.body? source = some itemsBody →
        let quest := (ExtractedQuest.ofSource displayName source).value
        quest.record.itemRequirements =
          (references.filterMap fun reference => shown reference.name).eraseDups ∧
        quest.unresolvedItems = references.countP fun reference => (shown reference.name).isNone) ∧
    ∀ className, QuestMember.setupRequirements.body? (itemSource className setupBody itemsBody) =
        some setupBody ∧
      QuestMember.itemRequirements.body? (itemSource className setupBody itemsBody) =
        some itemsBody := by
  have texts := SetupStatement.extract_laid laid
  constructor
  · refine ⟨fun name => ((ItemTexts.extract setupBody).value.resolve name).display?, ?_, ?_, ?_⟩
    · intro name text
      exact SetupStatement.display?_eq_some_iff (fun name => (texts name).1) fun name =>
        (texts name).2
    · intro name
      exact SetupStatement.display?_eq_none_iff (fun name => (texts name).1) fun name =>
        (texts name).2
    · intro source displayName setUp items
      have setupIs : QuestMember.setupRequirements.body source = setupBody := by
        rw [QuestMember.body, setUp, Option.getD_some]
      have itemsAre : QuestMember.itemRequirements.body source = itemsBody := by
        rw [QuestMember.body, items, Option.getD_some]
      have shown : (ExtractedQuest.ofSource displayName source).value.record.itemRequirements =
          Assembly.itemTexts
            (ItemTexts.extract (QuestMember.setupRequirements.body source)).value
            (ItemReference.extract (QuestMember.itemRequirements.body source)) := rfl
      have dropped : (ExtractedQuest.ofSource displayName source).value.unresolvedItems =
          (Assembly.unresolved
            (ItemTexts.extract (QuestMember.setupRequirements.body source)).value
            (ItemReference.extract (QuestMember.itemRequirements.body source))).length := rfl
      rw [setupIs, itemsAre, ItemReference.extract_returned returned] at shown dropped
      refine ⟨?_, ?_⟩
      · rw [shown, Assembly.itemTexts, firstOccurrences_eq_eraseDups, List.filterMap_map]
        rfl
      · rw [dropped, Assembly.unresolved, List.filter_map, List.length_map,
          List.countP_eq_length_filter]
        rfl
  · intro className
    obtain ⟨opening, closing⟩ := laid.braceless SetupStatement.statements
    obtain ⟨opening', closing'⟩ := returned.braceless ItemReference.statements
    constructor
    · exact locate?_setup (by decide +kernel) (by decide +kernel) opening closing
    · exact locate?_list SetupStatement.statements laid (by decide +kernel) (by decide +kernel)
        opening' closing'

/-- An alias before the text that it leads to, and one that leads to itself. -/
def ropeSetup : List SetupStatement :=
  [.highlighted ⟨['a'], rfl⟩ ⟨['b'], rfl⟩,
    .item ⟨['b'], rfl⟩ "ItemRequirement" (by decide)
      ⟨"Rope \"long\"".toList, by decide +kernel, by decide +kernel, by decide +kernel⟩,
    .quantity ⟨['c'], rfl⟩ ⟨['c'], rfl⟩ 3]

def ropeReferences : List Identifier :=
  [⟨['a'], rfl⟩, ⟨['c'], rfl⟩, ⟨['b'], rfl⟩, ⟨['d'], rfl⟩]

theorem itemRequirements_shown_rope :
    let setupBody := "\na = b.highlighted();\nb = new ItemRequirement(\"Rope ".toList ++
      "\\\"long\\\"\", 1);\nc = c.quantity(3);".toList
    let itemsBody := "\nreturn Arrays.asList(a, c, b, d);".toList
    Laid SetupStatement.text ropeSetup setupBody ∧
      Laid ItemReference.returned [ropeReferences] itemsBody ∧
      ∀ className displayName,
        let source := itemSource className setupBody itemsBody
        let quest := (ExtractedQuest.ofSource displayName source).value
        quest.record.itemRequirements = ["Rope \"long\""] ∧ quest.unresolvedItems = 2 := by
  intro setupBody itemsBody
  have laid : Laid SetupStatement.text ropeSetup setupBody := by
    have whole : setupBody = ropeSetup.flatMap fun statement => '\n' :: statement.text := by
      decide +kernel
    rw [whole]
    exact .lines ropeSetup
  have returned : Laid ItemReference.returned [ropeReferences] itemsBody := by
    have whole : itemsBody = [ropeReferences].flatMap fun items =>
        '\n' :: ItemReference.returned items := by
      decide +kernel
    rw [whole]
    exact .lines [ropeReferences]
  refine ⟨laid, returned, fun className displayName => ?_⟩
  obtain ⟨⟨shown, text, none, record⟩, located⟩ := itemRequirements_shown laid returned
  have direct : shown "b" = some "Rope \"long\"" :=
    (text _ _).mpr ⟨0, "b", rfl, by decide +kernel, fun _ below => absurd below (Nat.not_lt_zero _)⟩
  have linked : shown "a" = some "Rope \"long\"" := by
    refine (text _ _).mpr ⟨1, "b", by decide +kernel, by decide +kernel, ?_⟩
    intro depth below passed here
    cases Nat.lt_one_iff.mp below
    cases here
    decide +kernel
  have unbound : shown "d" = .none := by
    refine (none _).mpr (.inl ⟨0, "d", rfl, by decide +kernel, ?_⟩)
    intro depth below passed here
    cases Nat.lt_one_iff.mp below
    cases here
    decide +kernel
  have looped : shown "c" = .none := by
    have stays : ∀ depth, SetupStatement.leadsTo ropeSetup "c" depth = some "c" := by
      intro depth
      induction depth with
      | zero => rfl
      | succ depth ih =>
        rw [SetupStatement.leadsTo, ih]
        decide +kernel
    refine (none _).mpr (.inr fun depth => ⟨by rw [stays]; rfl, ?_⟩)
    intro earlier _ passed here
    cases (stays earlier).symm.trans here
    decide +kernel
  have found := record _ displayName (located className).1 (located className).2
  have names : ropeReferences.map Identifier.name = ["a", "c", "b", "d"] := by decide +kernel
  have texts : (ropeReferences.filterMap fun reference => shown reference.name) =
      (ropeReferences.map Identifier.name).filterMap shown := List.filterMap_map.symm
  have counted : (ropeReferences.countP fun reference => (shown reference.name).isNone) =
      (ropeReferences.map Identifier.name).countP fun name => (shown name).isNone := by
    rw [List.countP_map]
    rfl
  rw [texts, counted, names] at found
  simpa [direct, linked, unbound, looped, List.eraseDups_cons] using found

end QuestRecords
