import Mathlib.Data.List.Nodup
import Mathlib.Data.List.Perm.Basic
import QuestRecords.Text.Site

namespace QuestRecords.Text

variable {α : Type}

theorem le_offset_of_mem_sitesFrom {site : Site} {behind text : Text}
    (member : site ∈ sitesFrom behind text) : width behind ≤ site.offset := by
  induction text generalizing behind with
  | nil => cases member
  | cons c ahead ih =>
    rcases List.mem_cons.mp member with rfl | later
    · exact Nat.le_refl _
    · have := ih later
      rw [width_cons] at this
      omega

theorem pairwise_offset_sitesFrom (behind ahead : Text) :
    (sitesFrom behind ahead).Pairwise fun earlier later => earlier.offset < later.offset := by
  induction ahead generalizing behind with
  | nil => exact .nil
  | cons c ahead ih =>
    rw [sitesFrom, List.pairwise_cons]
    refine ⟨fun later member => ?_, ih (c :: behind)⟩
    have beyond := le_offset_of_mem_sitesFrom member
    rw [width_cons] at beyond
    exact Nat.lt_of_lt_of_le (Nat.lt_add_of_pos_left c.utf8Size_pos) beyond

theorem pairwise_filterMap_sitesFrom {read : Site → Option α} {key : α → Nat}
    (located : ∀ site found, read site = some found → key found = site.offset)
    (behind ahead : Text) :
    ((sitesFrom behind ahead).filterMap read).Pairwise fun earlier later =>
      key earlier < key later := by
  refine (pairwise_offset_sitesFrom behind ahead).filterMap read ?_
  intro site later before found here other there
  rw [located site found here, located later other there]
  exact before

theorem findFirst?_eq_head? (read : Site → Option α) (text : Text) :
    findFirst? read text = (findAll read text).head? :=
  List.head?_filterMap.symm

/-- The first of a list in the order of a key is the one of its members with the least key. -/
theorem head?_eq_some_iff_of_pairwise {key : α → Nat} {found : List α}
    (ordered : found.Pairwise fun earlier later => key earlier < key later) {first : α} :
    found.head? = some first ↔ first ∈ found ∧ ∀ other ∈ found, key first ≤ key other := by
  cases found with
  | nil => simp
  | cons head rest =>
    obtain ⟨beyond, -⟩ := List.pairwise_cons.mp ordered
    rw [List.head?_cons, Option.some.injEq]
    constructor
    · rintro rfl
      refine ⟨List.mem_cons_self, List.forall_mem_cons.mpr ⟨Nat.le_refl _, ?_⟩⟩
      exact fun other member => Nat.le_of_lt (beyond other member)
    · rintro ⟨member, least⟩
      rcases List.mem_cons.mp member with rfl | later
      · rfl
      · exact absurd (least head List.mem_cons_self) (Nat.not_le.mpr (beyond first later))

/-- In a list in the order of a key a relation holds from left to right when it holds from smaller to
greater keys. -/
theorem pairwise_iff_of_pairwise {key : α → Nat} {found : List α} {rel : α → α → Prop}
    (ordered : found.Pairwise fun earlier later => key earlier < key later) :
    found.Pairwise rel ↔ ∀ left ∈ found, ∀ right ∈ found, key left < key right → rel left right := by
  constructor
  · intro related left inLeft right inRight
    have both := List.pairwise_and_iff.mpr ⟨related, ordered⟩
    have forth : found.Pairwise fun left right => key left < key right → rel left right :=
      both.imp fun pair _ => pair.1
    have back : found.Pairwise fun left right => key right < key left → rel right left :=
      both.imp fun pair before => absurd before (Nat.lt_asymm pair.2)
    exact forth.forall_of_forall_of_flip (fun _ _ same => absurd same (Nat.lt_irrefl _)) back
      inLeft inRight
  · intro related
    exact ordered.imp_of_mem fun inLeft inRight before => related _ inLeft _ inRight before

/-- When at most one member of a list is read, the first that is read is the only one. -/
theorem filterMap_eq_toList_findSome? {β : Type} {read : α → Option β} {items : List α}
    (sole : items.Pairwise fun left right => (read left).isSome = true → read right = none) :
    items.filterMap read = (items.findSome? read).toList := by
  induction sole with
  | nil => rfl
  | @cons first others alone _ ih =>
    rw [List.filterMap_cons, List.findSome?_cons]
    cases here : read first with
    | none => exact ih
    | some result =>
      have silent : others.filterMap read = [] := List.filterMap_eq_nil_iff.mpr
        fun other member => alone other member (Option.isSome_of_eq_some here)
      exact congrArg (result :: ·) silent

/-- What readers find one after the other they find together place by place. -/
theorem flatMap_findAll_perm (readers : List (Site → Option α)) (text : Text) :
    (readers.flatMap fun read => findAll read text).Perm
      ((sites text).flatMap fun site => readers.filterMap (· site)) := by
  induction readers with
  | nil => simp
  | cons read readers ih =>
    have first : findAll read text = (sites text).flatMap fun site => (read site).toList :=
      List.filterMap_eq_flatMap_toList read (sites text)
    have each : ((sites text).flatMap fun site => (read :: readers).filterMap (· site)) =
        (sites text).flatMap fun site => (read site).toList ++ readers.filterMap (· site) := by
      apply List.flatMap_congr
      intro site _
      rw [List.filterMap_cons]
      cases read site <;> rfl
    rw [List.flatMap_cons, first, each]
    exact (ih.append_left _).trans (List.flatMap_append_perm _ _ _)

/-- Sorting by a key gives the one order in which the keys increase. -/
theorem mergeSort_eq_of_perm {key : α → Nat} {found sorted : List α} (perm : found.Perm sorted)
    (ordered : sorted.Pairwise fun earlier later => key earlier < key later) :
    (found.mergeSort fun left right => key left ≤ key right) = sorted := by
  have sorts : (found.mergeSort fun left right => key left ≤ key right).Pairwise
      fun left right => key left ≤ key right := by
    have transitive : ∀ left middle right : α, decide (key left ≤ key middle) = true →
        decide (key middle ≤ key right) = true → decide (key left ≤ key right) = true := by
      intro left middle right first second
      rw [decide_eq_true_eq] at first second ⊢
      exact Nat.le_trans first second
    have total : ∀ left right : α,
        (decide (key left ≤ key right) || decide (key right ≤ key left)) = true := by
      intro left right
      simpa using Nat.le_total (key left) (key right)
    have sorts := List.pairwise_mergeSort transitive total found
    exact sorts.imp of_decide_eq_true
  have distinct : (sorted.map key).Nodup := List.pairwise_map.mpr (ordered.imp Nat.ne_of_lt)
  have sole : ∀ left right, left ∈ found.mergeSort (fun left right => key left ≤ key right) →
      right ∈ sorted → key left ≤ key right → key right ≤ key left → left = right := by
    intro left right inLeft inRight below above
    have inLeft := perm.mem_iff.mp (List.mem_mergeSort.mp inLeft)
    exact List.inj_on_of_nodup_map distinct inLeft inRight (Nat.le_antisymm below above)
  exact List.Perm.eq_of_pairwise sole sorts (ordered.imp Nat.le_of_lt)
    ((List.mergeSort_perm found _).trans perm)

/-- What readers find of which at most one reads at a place is sorted into what is found by asking
all of them at every place. -/
theorem mergeSort_findAll {readers : List (Site → Option α)} {read : Site → Option α}
    {key : α → Nat} (sole : ∀ site, readers.filterMap (· site) = (read site).toList)
    (located : ∀ site found, read site = some found → key found = site.offset) (text : Text) :
    ((readers.flatMap fun read => findAll read text).mergeSort
      fun left right => key left ≤ key right) = findAll read text := by
  apply mergeSort_eq_of_perm
  · have together := flatMap_findAll_perm readers text
    rwa [List.flatMap_congr fun site _ => sole site, ← List.filterMap_eq_flatMap_toList] at together
  · exact pairwise_filterMap_sitesFrom located [] text

end QuestRecords.Text
