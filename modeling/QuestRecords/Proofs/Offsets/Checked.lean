import QuestRecords.Proofs.Offsets.Bytes
import QuestRecords.Source.Member

/-! Computations that byte offsets can stop. A slice must fall between characters and in order, an
index must be below the end, an unsigned difference must not be negative, and a signed depth must
stay within 32 bits; otherwise the computation ends with a fault and has no result. -/
namespace QuestRecords.Offsets

open Text

/-- What stops a computation. -/
inductive Fault where
  /-- A slice that starts or ends inside a character or out of range. -/
  | boundary
  /-- A byte behind the end. -/
  | index
  /-- An unsigned difference below zero. -/
  | negative
  /-- A signed number beyond 32 bits. -/
  | overflow
  deriving DecidableEq

abbrev Checked := Except Fault

@[simp] theorem pure_eq_ok (value : α) : (pure value : Checked α) = .ok value := rfl

@[simp] theorem ok_bind (value : α) (next : α → Checked β) :
    ((.ok value : Checked α) >>= next) = next value := rfl

def slice (text : Text) (start stop : Nat) : Checked Text :=
  match text.slice? start stop with
  | some part => .ok part
  | none => .error .boundary

def sliceFrom (text : Text) (start : Nat) : Checked Text := slice text start (width text)

def byteAt (text : Text) (offset : Nat) : Checked UInt8 :=
  match byte? text offset with
  | some byte => .ok byte
  | none => .error .index

/-- The difference of unsigned numbers. -/
def subtract (left right : Nat) : Checked Nat :=
  if right ≤ left then .ok (left - right) else .error .negative

/-- A sum of signed numbers of 32 bits. -/
def addSigned (left right : Int) : Checked Int :=
  if -0x80000000 ≤ left + right ∧ left + right < 0x80000000 then .ok (left + right)
  else .error .overflow

/-- The results for the members of a list that have one. -/
def gather (read : α → Checked (Option β)) : List α → Checked (List β)
  | [] => .ok []
  | a :: rest => do
    match ← read a with
    | some found => return found :: (← gather read rest)
    | none => gather read rest

/-- The result for the first member of a list that has one; later members are not looked at. -/
def firstSome (read : α → Checked (Option β)) : List α → Checked (Option β)
  | [] => .ok none
  | a :: rest => do
    match ← read a with
    | some found => return some found
    | none => firstSome read rest

/-- The offsets at which a text occurs in another, from left to right and without overlaps. -/
def occurrences (text needle : Text) : List Nat :=
  (findDisjoint (Source.Member.occurrence? needle) text).map fun found => found.1.offset

def find? (test : Char → Bool) : Text → Option Nat
  | [] => none
  | c :: rest => if test c then some 0 else (find? test rest).map (c.utf8Size + ·)

theorem slice_eq_ok_iff {text part : Text} {start stop : Nat} :
    slice text start stop = .ok part ↔ text.slice? start stop = some part := by
  rw [slice]
  split <;> simp_all

theorem slice_ok (before after : Text) {text between : Text} {start stop : Nat}
    (same : text = before ++ (between ++ after)) (starts : start = width before)
    (stops : stop = width before + width between) : slice text start stop = .ok between :=
  slice_eq_ok_iff.mpr (slice?_of_append before after same starts stops)

example : slice ['ä', 'b'] 1 3 = .error .boundary := rfl

theorem sliceFrom_append (before after : Text) :
    sliceFrom (before ++ after) (width before) = .ok after :=
  slice_ok before [] (by rw [List.append_nil]) rfl (width_append before after)

theorem find?_eq (test : Char → Bool) (text : Text) :
    find? test text =
      if text.dropWhile (!test ·) = [] then none else some (width (text.takeWhile (!test ·))) := by
  induction text with
  | nil => rfl
  | cons c rest ih =>
    by_cases passed : test c = true
    · simp [find?, passed]
    · by_cases missing : rest.dropWhile (!test ·) = []
      · simp [find?, ih, passed, missing]
      · simp [find?, ih, passed, missing]

theorem byteAt_of_byte? {text : Text} {offset : Nat} {byte : UInt8}
    (found : byte? text offset = some byte) : byteAt text offset = .ok byte := by
  rw [byteAt, found]

theorem subtract_of_le {left right : Nat} (below : right ≤ left) :
    subtract left right = .ok (left - right) := if_pos below

@[simp] theorem subtract_succ (depth : Nat) : subtract (depth + 1) 1 = .ok depth :=
  subtract_of_le (Nat.le_add_left 1 depth)

theorem addSigned_of_bounds {left right : Int} (above : -0x80000000 ≤ left + right)
    (below : left + right < 0x80000000) : addSigned left right = .ok (left + right) :=
  if_pos ⟨above, below⟩

/-- Gathering from the places of some members of a list, when the others have no result. -/
theorem gather_filterMap {place : γ → Option α} {read : α → Checked (Option β)}
    {result : γ → Option β} {values : List γ}
    (atPlace : ∀ value ∈ values, ∀ here, place value = some here → read here = .ok (result value))
    (elsewhere : ∀ value ∈ values, place value = none → result value = none) :
    gather read (values.filterMap place) = .ok (values.filterMap result) := by
  induction values with
  | nil => rfl
  | cons value rest ih =>
    have ih := ih (fun other member => atPlace other (List.mem_cons_of_mem _ member))
      (fun other member => elsewhere other (List.mem_cons_of_mem _ member))
    cases here : place value with
    | none =>
      rw [List.filterMap_cons_none here, ih,
        List.filterMap_cons_none (elsewhere value List.mem_cons_self here)]
    | some found =>
      rw [List.filterMap_cons_some here, gather, atPlace value List.mem_cons_self found here, ih,
        List.filterMap_cons]
      cases result value <;> rfl

theorem gather_ok {read : α → Checked (Option β)} {result : α → Option β} {values : List α}
    (each : ∀ value ∈ values, read value = .ok (result value)) :
    gather read values = .ok (values.filterMap result) := by
  have places : gather read (values.filterMap some) = .ok (values.filterMap result) := by
    apply gather_filterMap
    · intro value member here same
      cases same
      exact each value member
    · intro value _ missing
      cases missing
  rw [List.filterMap_some] at places
  exact places

theorem firstSome_ok {read : α → Checked (Option β)} {result : α → Option β} {values : List α}
    (each : ∀ value ∈ values, read value = .ok (result value)) :
    firstSome read values = .ok (values.findSome? result) := by
  induction values with
  | nil => rfl
  | cons value rest ih =>
    have ih := ih (fun other member => each other (List.mem_cons_of_mem _ member))
    rw [firstSome, each value List.mem_cons_self, List.findSome?_cons, ih]
    cases result value <;> rfl

theorem firstSome_map (read : α → Checked (Option β)) (place : γ → α) (values : List γ) :
    firstSome read (values.map place) = firstSome (fun value => read (place value)) values := by
  induction values with
  | nil => rfl
  | cons value rest ih => rw [List.map_cons, firstSome, firstSome, ih]

/-! What stands ahead of a site, behind a beginning of it. -/

theorem text_of_mem_sites {site : Site} {text : Text} (place : site ∈ sites text) :
    site.text = text :=
  ((mem_sites_iff site text).mp place).1

theorem ahead_isInfix (site : Site) : site.ahead <:+: site.text :=
  (List.suffix_append site.behind.reverse site.ahead).isInfix

section

variable (site : Site) {header rest : Text} (split : site.ahead = header ++ rest)

theorem site_offset (header : Text) :
    site.offset + width header = width (site.behind.reverse ++ header) := by
  rw [width_append, width_reverse, Site.offset]

include split

theorem site_text : site.text = site.behind.reverse ++ header ++ rest := by
  rw [Site.text, split, List.append_assoc]

theorem sliceFrom_site : sliceFrom site.text (site.offset + width header) = .ok rest := by
  rw [site_text site split, site_offset, sliceFrom_append]

theorem shows_site {test : Char → Bool} (narrow : ∀ c, test c = true → c.utf8Size = 1) :
    shows test site.text (site.offset + width header) = rest.head?.any test := by
  rw [site_text site split, site_offset, shows_append narrow]

theorem holds_site {c : Char} (narrow : c.utf8Size = 1) :
    holds site.text (site.offset + width header) c = rest.head?.any (· == c) := by
  rw [site_text site split, site_offset, holds_append narrow]

end

end QuestRecords.Offsets
