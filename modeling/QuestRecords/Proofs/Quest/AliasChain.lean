import Mathlib.Data.List.Nodup
import Mathlib.Data.List.Perm.Subperm
import QuestRecords.Quest.ItemText

/-! Aliases as a chain of variables. Resolving a variable walks along its chain and ends at the first
variable with a text, at the end of the chain, or at the first variable met twice. No variable is
passed twice, so the walk never takes more rounds than there are aliases and one. -/
namespace QuestRecords.ItemTexts

/-- The variable that a number of aliases lead to from a variable, if the chain is as long. -/
def chain (texts : ItemTexts) (name : String) : Nat → Option String
  | 0 => some name
  | depth + 1 => (texts.chain name depth).bind texts.aliases.get?

/-- The variable at a depth of the chain, if there is one, has no text of its own. -/
def TextlessAt (texts : ItemTexts) (name : String) (depth : Nat) : Prop :=
  ∀ member, texts.chain name depth = some member → texts.direct.get? member = none

/-- The variable of a chain that is met twice before any other is: the chain comes back to it,
all variables up to there differ, and those before it are never met again. -/
def MetTwiceFirst (texts : ItemTexts) (name repeated : String) : Prop :=
  ∃ first second, first < second ∧ texts.chain name first = some repeated ∧
    texts.chain name second = some repeated ∧
    (∀ later < second, ∀ earlier < later, texts.chain name earlier ≠ texts.chain name later) ∧
    ∀ earlier < first, ∀ later, earlier < later → texts.chain name earlier ≠ texts.chain name later

/-- The walk along a chain, cut off after a number of rounds. -/
def followWithin (texts : ItemTexts) : Nat → List String → String → Option Resolution
  | 0, _, _ => none
  | rounds + 1, passed, current =>
    match texts.direct.get? current with
    | some display => some (.resolved display passed.length)
    | none =>
      if current ∈ passed then some (.cycle current)
      else
        match texts.aliases.get? current with
        | some base => followWithin texts rounds (current :: passed) base
        | none => some (.missing current)

section

variable {texts : ItemTexts} {name : String}

/-- What follows in a chain depends on the variable alone. -/
theorem chain_add {first second : Nat} (same : texts.chain name first = texts.chain name second)
    (steps : Nat) : texts.chain name (first + steps) = texts.chain name (second + steps) := by
  induction steps with
  | zero => exact same
  | succ steps ih => rw [← Nat.add_assoc, ← Nat.add_assoc, chain, chain, ih]

/-- A chain that starts at a later variable of a chain is the rest of that chain. -/
theorem chain_chain {member : String} {depth : Nat} (here : texts.chain name depth = some member)
    (steps : Nat) : texts.chain member steps = texts.chain name (depth + steps) := by
  induction steps with
  | zero => exact here.symm
  | succ steps ih => rw [← Nat.add_assoc, chain, chain, ih]

theorem chain_eq_none_of_le {last later : Nat} (ended : texts.chain name last = none)
    (order : last ≤ later) : texts.chain name later = none := by
  induction order with
  | refl => exact ended
  | step _ ih => rw [chain, ih, Option.bind_none]

/-- Once a chain has come back to a variable, all that follows has been met between. -/
theorem exists_between {first second : Nat} (order : first < second)
    (same : texts.chain name first = texts.chain name second) (depth : Nat) (behind : first ≤ depth) :
    ∃ between, first ≤ between ∧ between < second ∧
      texts.chain name between = texts.chain name depth := by
  induction depth using Nat.strongRecOn with
  | ind depth ih =>
    by_cases inside : depth < second
    · exact ⟨depth, behind, inside, rfl⟩
    · obtain ⟨steps, rfl⟩ := Nat.exists_eq_add_of_le (Nat.le_of_not_lt inside)
      obtain ⟨between, low, high, found⟩ :=
        ih (first + steps) (Nat.add_lt_add_right order steps) (Nat.le_add_right first steps)
      exact ⟨between, low, high, found.trans (chain_add same steps)⟩

end

/-- A walk that has come to a variable: what it passed is the chain up to there, last first, where
every variable is an alias without a text and none stands twice. -/
structure Walked (texts : ItemTexts) (name : String) (passed : List String) (current : String) :
    Prop where
  here : texts.chain name passed.length = some current
  behind : ∀ depth < passed.length, texts.chain name depth = passed.reverse[depth]?
  textless : ∀ member ∈ passed, texts.direct.get? member = none
  linked : passed ⊆ texts.aliases.names
  nodup : passed.Nodup

/-- What a walk ends with, by the chain alone. -/
inductive Ends (texts : ItemTexts) (name : String) : Resolution → Prop where
  | resolved (here : texts.chain name depth = some member)
      (bound : texts.direct.get? member = some display)
      (before : ∀ earlier < depth, texts.TextlessAt name earlier)
      (short : depth ≤ texts.aliases.size) : Ends texts name (.resolved display depth)
  | missing (here : texts.chain name depth = some last) (unlinked : texts.aliases.get? last = none)
      (textless : ∀ depth, texts.TextlessAt name depth) : Ends texts name (.missing last)
  | cycle (endless : ∀ depth, (texts.chain name depth).isSome)
      (textless : ∀ depth, texts.TextlessAt name depth)
      (twice : texts.MetTwiceFirst name repeated) : Ends texts name (.cycle repeated)

namespace Walked

variable {texts : ItemTexts} {name current base : String} {passed : List String}

theorem start (texts : ItemTexts) (name : String) : Walked texts name [] name := by
  refine ⟨rfl, ?_, ?_, List.nil_subset _, List.nodup_nil⟩
  · intro depth below
    exact absurd below (Nat.not_lt_zero depth)
  · intro member listed
    cases listed

/-- A round that follows an alias. -/
theorem step (walked : Walked texts name passed current)
    (textless : texts.direct.get? current = none) (fresh : current ∉ passed)
    (linked : texts.aliases.get? current = some base) :
    Walked texts name (current :: passed) base := by
  refine ⟨?_, ?_, ?_, ?_, List.nodup_cons.mpr ⟨fresh, walked.nodup⟩⟩
  · rw [List.length_cons, chain, walked.here, Option.bind_some, linked]
  · intro depth below
    rw [List.reverse_cons]
    rcases Nat.lt_succ_iff_lt_or_eq.mp below with earlier | rfl
    · rw [List.getElem?_append_left (by simpa using earlier), walked.behind depth earlier]
    · rw [walked.here, ← List.length_reverse, List.getElem?_concat_length]
  · intro member listed
    rcases List.mem_cons.mp listed with rfl | earlier
    · exact textless
    · exact walked.textless member earlier
  · exact List.cons_subset.mpr ⟨mem_names_of_get? linked, walked.linked⟩

/-- Every variable that was passed is an alias, and none was passed twice. -/
theorem length_le (walked : Walked texts name passed current) :
    passed.length ≤ texts.aliases.size := by
  have fewer := (List.Nodup.subperm walked.nodup walked.linked).length_le
  simpa [Bindings.names, Bindings.size] using fewer

theorem passed_at (walked : Walked texts name passed current) {depth : Nat}
    (below : depth < passed.length) :
    ∃ member ∈ passed, texts.chain name depth = some member := by
  have inside : depth < passed.reverse.length := by simpa using below
  refine ⟨passed.reverse[depth], List.mem_reverse.mp (List.getElem_mem inside), ?_⟩
  rw [walked.behind depth below, List.getElem?_eq_getElem inside]

theorem textlessAt (walked : Walked texts name passed current) {depth : Nat}
    (below : depth < passed.length) : texts.TextlessAt name depth := by
  intro member found
  obtain ⟨other, listed, here⟩ := walked.passed_at below
  obtain rfl := Option.some.inj (found.symm.trans here)
  exact walked.textless member listed

theorem chain_ne (walked : Walked texts name passed current) {earlier later : Nat}
    (order : earlier < later) (below : later < passed.length) :
    texts.chain name earlier ≠ texts.chain name later := by
  rw [walked.behind earlier (Nat.lt_trans order below), walked.behind later below]
  exact List.nodup_iff_getElem?_ne_getElem?.mp (List.nodup_reverse.mpr walked.nodup) earlier later
    order (by simpa using below)

/-- The chain ends where a walk comes to a variable that is no alias. -/
theorem ends_missing (walked : Walked texts name passed current)
    (textless : texts.direct.get? current = none) (unlinked : texts.aliases.get? current = none) :
    Ends texts name (.missing current) := by
  refine .missing walked.here unlinked ?_
  intro depth member found
  rcases Nat.lt_trichotomy depth passed.length with below | rfl | above
  · exact walked.textlessAt below member found
  · cases walked.here.symm.trans found
    exact textless
  · have ended : texts.chain name (passed.length + 1) = none := by
      rw [chain, walked.here, Option.bind_some, unlinked]
    rw [chain_eq_none_of_le ended above] at found
    cases found

/-- The chain never ends where a walk comes to a variable that it has passed. -/
theorem ends_cycle (walked : Walked texts name passed current) (repeated : current ∈ passed) :
    Ends texts name (.cycle current) := by
  obtain ⟨first, inside, place⟩ := List.mem_iff_getElem.mp (List.mem_reverse.mpr repeated)
  have order : first < passed.length := by simpa using inside
  have met : texts.chain name first = some current := by
    rw [walked.behind first order, List.getElem?_eq_getElem inside, place]
  have same := met.trans walked.here.symm
  have passedBefore : ∀ depth, ∃ earlier < passed.length,
      texts.chain name earlier = texts.chain name depth := by
    intro depth
    by_cases below : depth < passed.length
    · exact ⟨depth, below, rfl⟩
    · obtain ⟨between, -, high, found⟩ :=
        exists_between order same depth (Nat.le_trans (Nat.le_of_lt order) (Nat.le_of_not_lt below))
      exact ⟨between, high, found⟩
  refine .cycle ?_ ?_ ⟨first, passed.length, order, met, walked.here, ?_, ?_⟩
  · intro depth
    obtain ⟨earlier, below, found⟩ := passedBefore depth
    obtain ⟨member, -, here⟩ := walked.passed_at below
    rw [← found, here]
    rfl
  · intro depth member found
    obtain ⟨earlier, below, equal⟩ := passedBefore depth
    exact walked.textlessAt below member (equal.trans found)
  · intro later below earlier before
    exact walked.chain_ne before below
  · intro earlier before later after
    by_cases below : later < passed.length
    · exact walked.chain_ne after below
    · obtain ⟨between, low, high, found⟩ :=
        exists_between order same later (Nat.le_trans (Nat.le_of_lt order) (Nat.le_of_not_lt below))
      rw [← found]
      exact walked.chain_ne (Nat.lt_of_lt_of_le before low) high

/-- A walk goes on to what the chain ends with. -/
theorem ends_follow (walked : Walked texts name passed current) :
    Ends texts name (texts.follow passed current) := by
  fun_induction follow texts passed current with
  | case1 passed current display bound =>
    exact .resolved walked.here bound (fun _ below => walked.textlessAt below) walked.length_le
  | case2 passed current textless met => exact walked.ends_cycle met
  | case3 passed current textless fresh base linked ih =>
    exact ih (walked.step textless fresh linked)
  | case4 passed current textless fresh unlinked => exact walked.ends_missing textless unlinked

/-- The rounds that are left are enough as long as each variable passed has had one. -/
theorem followWithin_eq (walked : Walked texts name passed current) {rounds : Nat}
    (enough : texts.aliases.size < rounds + passed.length) :
    texts.followWithin rounds passed current = some (texts.follow passed current) := by
  induction rounds generalizing passed current with
  | zero =>
    have := walked.length_le
    omega
  | succ rounds ih =>
    rw [followWithin, follow]
    cases textless : texts.direct.get? current with
    | some display => rfl
    | none =>
      by_cases met : current ∈ passed
      · simp [met]
      · cases linked : texts.aliases.get? current with
        | none => simp [met]
        | some base =>
          have later := ih (walked.step textless met linked) (by simp only [List.length_cons]; omega)
          simpa [met] using later

end Walked

variable {texts : ItemTexts} {name repeated : String}

theorem ends_resolve (texts : ItemTexts) (name : String) : Ends texts name (texts.resolve name) :=
  (Walked.start texts name).ends_follow

theorem MetTwiceFirst.unique {other : String} (one : texts.MetTwiceFirst name repeated)
    (another : texts.MetTwiceFirst name other) : repeated = other := by
  obtain ⟨first, second, order, met, again, apart, -⟩ := one
  obtain ⟨first', second', order', met', again', apart', -⟩ := another
  rcases Nat.lt_trichotomy second second' with below | rfl | above
  · exact absurd (met.trans again.symm) (apart' second below first order)
  · exact Option.some.inj (again.symm.trans again')
  · exact absurd (met'.trans again'.symm) (apart second' above first' order')

/-- A variable that is met twice comes back to itself. -/
theorem MetTwiceFirst.returns (twice : texts.MetTwiceFirst name repeated) :
    ∃ steps, 0 < steps ∧ texts.chain repeated steps = some repeated := by
  obtain ⟨first, second, order, met, again, -, -⟩ := twice
  refine ⟨second - first, Nat.sub_pos_of_lt order, ?_⟩
  rw [chain_chain met, Nat.add_sub_cancel' (Nat.le_of_lt order), again]

theorem resolve_eq_resolved_iff {display : String} {depth : Nat} :
    texts.resolve name = .resolved display depth ↔
      (∃ member, texts.chain name depth = some member ∧
        texts.direct.get? member = some display) ∧
      ∀ earlier < depth, texts.TextlessAt name earlier := by
  have ends := ends_resolve texts name
  constructor
  · intro found
    rw [found] at ends
    cases ends with
    | resolved here bound before _ => exact ⟨⟨_, here, bound⟩, before⟩
  · rintro ⟨⟨member, here, bound⟩, before⟩
    have textful : ¬ texts.TextlessAt name depth := by
      intro textless
      rw [textless member here] at bound
      cases bound
    generalize texts.resolve name = result at ends
    cases ends with
    | @resolved place _ other here' bound' before' _ =>
      rcases Nat.lt_trichotomy place depth with below | rfl | above
      · rw [before place below _ here'] at bound'
        cases bound'
      · cases here'.symm.trans here
        rw [Option.some.inj (bound'.symm.trans bound)]
      · exact absurd (before' depth above) textful
    | missing _ _ textless => exact absurd (textless depth) textful
    | cycle _ textless _ => exact absurd (textless depth) textful

theorem resolve_eq_missing_iff {last : String} :
    texts.resolve name = .missing last ↔
      (∀ depth, texts.TextlessAt name depth) ∧
      ∃ depth, texts.chain name depth = some last ∧ texts.aliases.get? last = none := by
  have ends := ends_resolve texts name
  constructor
  · intro found
    rw [found] at ends
    cases ends with
    | missing here unlinked textless => exact ⟨textless, _, here, unlinked⟩
  · rintro ⟨textless, depth, here, unlinked⟩
    have ended : texts.chain name (depth + 1) = none := by
      rw [chain, here, Option.bind_some, unlinked]
    generalize texts.resolve name = result at ends
    cases ends with
    | resolved here' bound _ _ =>
      rw [textless _ _ here'] at bound
      cases bound
    | @missing place _ here' unlinked' _ =>
      have ended' : texts.chain name (place + 1) = none := by
        rw [chain, here', Option.bind_some, unlinked']
      rcases Nat.lt_trichotomy place depth with below | rfl | above
      · rw [chain_eq_none_of_le ended' below] at here
        cases here
      · rw [Option.some.inj (here'.symm.trans here)]
      · rw [chain_eq_none_of_le ended above] at here'
        cases here'
    | cycle endless _ _ =>
      have more := endless (depth + 1)
      rw [ended] at more
      cases more

theorem exists_resolve_eq_cycle_iff :
    (∃ repeated, texts.resolve name = .cycle repeated) ↔
      (∀ depth, (texts.chain name depth).isSome) ∧ ∀ depth, texts.TextlessAt name depth := by
  have ends := ends_resolve texts name
  constructor
  · rintro ⟨repeated, found⟩
    rw [found] at ends
    cases ends with
    | cycle endless textless _ => exact ⟨endless, textless⟩
  · rintro ⟨endless, textless⟩
    generalize texts.resolve name = result at ends
    cases ends with
    | resolved here bound _ _ =>
      rw [textless _ _ here] at bound
      cases bound
    | @missing depth _ here unlinked _ =>
      have more := endless (depth + 1)
      rw [chain, here, Option.bind_some, unlinked] at more
      cases more
    | cycle _ _ _ => exact ⟨_, rfl⟩

theorem resolve_eq_cycle_iff :
    texts.resolve name = .cycle repeated ↔
      (∀ depth, (texts.chain name depth).isSome) ∧ (∀ depth, texts.TextlessAt name depth) ∧
      texts.MetTwiceFirst name repeated := by
  constructor
  · intro found
    have ends := ends_resolve texts name
    rw [found] at ends
    cases ends with
    | cycle endless textless twice => exact ⟨endless, textless, twice⟩
  · rintro ⟨endless, textless, twice⟩
    obtain ⟨other, found⟩ := exists_resolve_eq_cycle_iff.mpr ⟨endless, textless⟩
    have ends := ends_resolve texts name
    rw [found] at ends
    cases ends with
    | cycle _ _ twice' => rw [found, twice.unique twice']

/-- Resolving a variable is following its chain: to the first variable with a text, else to the last
variable, else, when the chain has no end, to the variable that is met twice first, which then comes
back to itself. The walk takes at most one round more than there are aliases. -/
theorem resolve_follows_chain (texts : ItemTexts) (name : String) :
    (∀ display depth, texts.resolve name = .resolved display depth ↔
      (∃ member, texts.chain name depth = some member ∧
        texts.direct.get? member = some display) ∧
      ∀ earlier < depth, texts.TextlessAt name earlier) ∧
    (∀ last, texts.resolve name = .missing last ↔
      (∀ depth, texts.TextlessAt name depth) ∧
      ∃ depth, texts.chain name depth = some last ∧ texts.aliases.get? last = none) ∧
    ((∃ repeated, texts.resolve name = .cycle repeated) ↔
      (∀ depth, (texts.chain name depth).isSome) ∧ ∀ depth, texts.TextlessAt name depth) ∧
    (∀ repeated, texts.resolve name = .cycle repeated ↔
      (∀ depth, (texts.chain name depth).isSome) ∧ (∀ depth, texts.TextlessAt name depth) ∧
      texts.MetTwiceFirst name repeated) ∧
    (∀ repeated, texts.resolve name = .cycle repeated →
      ∃ steps, 0 < steps ∧ texts.chain repeated steps = some repeated) ∧
    texts.followWithin (texts.aliases.size + 1) [] name = some (texts.resolve name) ∧
    ∀ display depth, texts.resolve name = .resolved display depth →
      depth ≤ texts.aliases.size := by
  refine ⟨?_, ?_, exists_resolve_eq_cycle_iff, ?_, ?_, ?_, ?_⟩
  · intro display depth
    exact resolve_eq_resolved_iff
  · intro last
    exact resolve_eq_missing_iff
  · intro repeated
    exact resolve_eq_cycle_iff
  · intro repeated found
    obtain ⟨-, -, twice⟩ := resolve_eq_cycle_iff.mp found
    exact twice.returns
  · exact (Walked.start texts name).followWithin_eq (Nat.lt_succ_self _)
  · intro display depth found
    have ends := ends_resolve texts name
    rw [found] at ends
    cases ends with
    | resolved _ _ _ short => exact short

/-- A chain with a tail before its cycle, and an alias of itself that has a text. -/
def looped : ItemTexts where
  direct := .ofList [("dough", "Bread dough")]
  aliases := .ofList [("first", "left"), ("left", "right"), ("right", "left"), ("dough", "dough")]

theorem resolve_follows_chain_looped :
    looped.resolve "first" = .cycle "left" ∧
      (∃ steps, 0 < steps ∧ looped.chain "left" steps = some "left") ∧
      looped.resolve "dough" = .resolved "Bread dough" 0 ∧ 0 ≤ looped.aliases.size := by
  obtain ⟨-, -, -, -, returns, rounds, -⟩ := resolve_follows_chain looped "first"
  obtain ⟨-, -, -, -, -, rounds', short⟩ := resolve_follows_chain looped "dough"
  have tail : looped.resolve "first" = .cycle "left" := Option.some.inj (rounds.symm.trans rfl)
  have cut : looped.resolve "dough" = .resolved "Bread dough" 0 :=
    Option.some.inj (rounds'.symm.trans rfl)
  exact ⟨tail, returns "left" tail, cut, short "Bread dough" 0 cut⟩

end QuestRecords.ItemTexts
