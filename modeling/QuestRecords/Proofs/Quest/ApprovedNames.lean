import QuestRecords.Json.Fields
import QuestRecords.Proofs.Json.LastValues
import QuestRecords.Proofs.Json.ReadBack
import QuestRecords.Quest.ApprovedList

/-! What a list of approved quests says of each name in it. The last value of a name decides; a name
that no boolean is given last makes the list faulty, and the first such name is the one reported. -/
namespace QuestRecords.ApprovedList

open Json

/-- What the last value of a name decides. -/
def decision? (members : List (String × Json)) (name : String) : Option Bool :=
  (lastValue? members name).bind bool?

/-- The names of the entries that are `true`, or of those that are `false`. -/
def decidedNames (decision : Bool) (entries : List (String × Json)) : List String :=
  (entries.filter (·.2.bool? = some decision)).map (·.1)

section

variable {entries : List (String × Json)}

theorem foldlM_add_of_decided (each : ∀ entry ∈ entries, entry.2.bool?.isSome)
    (list : ApprovedList) :
    entries.foldlM add list = .ok {
      names := list.names ++ decidedNames true entries
      declined := list.declined + (decidedNames false entries).length } := by
  induction entries generalizing list with
  | nil => simp [decidedNames, pure, Except.pure]
  | cons entry rest ih =>
    obtain ⟨here, later⟩ := List.forall_mem_cons.mp each
    obtain ⟨name, value⟩ := entry
    obtain ⟨decision, given⟩ := Option.isSome_iff_exists.mp here
    cases value <;> cases given
    cases decision with
    | true =>
      rw [List.foldlM_cons]
      refine (ih later _).trans ?_
      simp [decidedNames, bool?]
    | false =>
      rw [List.foldlM_cons]
      refine (ih later _).trans ?_
      simp [decidedNames, bool?, Nat.add_assoc, Nat.add_comm 1]

/-- The first entry that is not decided is the fault of the list. -/
theorem foldlM_add_of_undecided {before after : List (String × Json)} {name : String} {value : Json}
    (each : ∀ entry ∈ before, entry.2.bool?.isSome) (undecided : value.bool? = none)
    (list : ApprovedList) :
    (before ++ (name, value) :: after).foldlM add list = .error (.notBoolean name value) := by
  rw [List.foldlM_append, foldlM_add_of_decided each]
  cases value with
  | bool decision => cases undecided
  | _ => rfl

end

theorem bool?_settle (json : Json) : json.settle.bool? = json.bool? := by
  cases json <;> rfl

section

variable {text : Text} {members : List (String × Json)}

theorem parse_of_members? (written : members? text = some members) :
    parse text = (distinctMembers (settleMembers members)).foldlM add {} := by
  rw [members?] at written
  split at written
  · rename_i read
    cases written
    rw [parse, parse?, read]
    rfl
  · cases written

theorem parse_of_members?_eq_none (unwritten : members? text = none) :
    parse text = .error .notAnObject := by
  rw [members?] at unwritten
  rw [parse, parse?]
  split at unwritten
  · cases unwritten
  · rename_i other
    split
    · rename_i entries settled
      obtain ⟨json, read, same⟩ := Option.map_eq_some_iff.mp settled
      cases json with
      | object members => exact absurd read (other members)
      | _ => cases same
    · rfl

theorem exists_lastValue {name : String} {value : Json}
    (listed : (name, value) ∈ distinctMembers (settleMembers members)) :
    ∃ given, lastValue? members name = some given ∧ given.settle = value := by
  -- No name is repeated any more, so an entry is what is found under its name.
  have distinct : ((distinctMembers (settleMembers members)).map (·.1)).Nodup := by
    rw [names_distinctMembers, memberNames]
    exact nodup_eraseDups _
  have found := (lookup_eq_some_iff_mem distinct).mpr listed
  rw [lookup_distinctMembers, lastValue?_settleMembers] at found
  exact Option.map_eq_some_iff.mp found

theorem bool?_eq_decision? {name : String} {value : Json}
    (listed : (name, value) ∈ distinctMembers (settleMembers members)) :
    value.bool? = decision? members name := by
  obtain ⟨given, last, rfl⟩ := exists_lastValue listed
  rw [decision?, last, Option.bind_some, bool?_settle]

theorem decidedNames_distinctMembers (decision : Bool) :
    decidedNames decision (distinctMembers (settleMembers members)) =
      (memberNames members).filter (decision? members · = some decision) := by
  rw [← memberNames_settleMembers, ← names_distinctMembers, List.filter_map, decidedNames]
  congr 1
  apply List.filter_congr
  intro entry listed
  rw [bool?_eq_decision? listed]
  rfl

/-- When every name is decided, the list has the names that are approved, and counts the others. -/
theorem parse_of_decided (written : members? text = some members)
    (each : ∀ name ∈ memberNames members, (decision? members name).isSome) :
    parse text = .ok {
      names := (memberNames members).filter (decision? members · = some true)
      declined := ((memberNames members).filter (decision? members · = some false)).length } := by
  have settled : ∀ entry ∈ distinctMembers (settleMembers members), entry.2.bool?.isSome := by
    intro entry listed
    rw [bool?_eq_decision? listed]
    apply each
    rw [← memberNames_settleMembers, ← names_distinctMembers]
    exact List.mem_map_of_mem listed
  rw [parse_of_members? written, foldlM_add_of_decided settled, decidedNames_distinctMembers,
    decidedNames_distinctMembers, List.nil_append, Nat.zero_add]

/-- Otherwise the fault is the value of the first name that is not decided. -/
theorem parse_of_undecided (written : members? text = some members) {before after : List String}
    {name : String} (split : memberNames members = before ++ name :: after)
    (each : ∀ earlier ∈ before, (decision? members earlier).isSome)
    (undecided : decision? members name = none) :
    ∃ value, lastValue? members name = some value ∧
      parse text = .error (.notBoolean name value.settle) := by
  rw [← memberNames_settleMembers, ← names_distinctMembers] at split
  obtain ⟨front, behind, entries, rfl, here⟩ := List.map_eq_append_iff.mp split
  obtain ⟨⟨first, settled⟩, rest, rfl, same, rfl⟩ := List.map_eq_cons_iff.mp here
  obtain rfl : first = name := same
  have listed : (first, settled) ∈ distinctMembers (settleMembers members) :=
    entries ▸ List.mem_append_right front List.mem_cons_self
  have earlier : ∀ entry ∈ front, entry.2.bool?.isSome := by
    intro entry member
    rw [bool?_eq_decision? (entries ▸ List.mem_append_left _ member)]
    exact each entry.1 (List.mem_map_of_mem member)
  obtain ⟨value, last, rfl⟩ := exists_lastValue listed
  refine ⟨value, last, ?_⟩
  rw [parse_of_members? written, entries]
  exact foldlM_add_of_undecided earlier ((bool?_eq_decision? listed).trans undecided) {}

theorem decided_or_first_undecided (members : List (String × Json)) (names : List String) :
    (∀ name ∈ names, (decision? members name).isSome) ∨
      ∃ before name after, names = before ++ name :: after ∧
        (∀ earlier ∈ before, (decision? members earlier).isSome) ∧
        decision? members name = none := by
  cases found : names.find? fun name => (decision? members name).isNone with
  | none =>
    refine .inl fun name member => ?_
    simpa [Option.isSome_iff_ne_none] using List.find?_eq_none.mp found name member
  | some name =>
    obtain ⟨undecided, before, after, split, earlier⟩ := List.find?_eq_some_iff_append.mp found
    refine .inr ⟨before, name, after, split, fun other member => ?_, by simpa using undecided⟩
    simpa using earlier other member

/-- Names that are all decided are approved or declined, and none is both. -/
theorem length_decided {names : List String}
    (each : ∀ name ∈ names, (decision? members name).isSome) :
    (names.filter (decision? members · = some true)).length +
      (names.filter (decision? members · = some false)).length = names.length := by
  have declined : names.filter (decision? members · = some false) =
      names.filter (fun name => !decide (decision? members name = some true)) := by
    apply List.filter_congr
    intro name member
    obtain ⟨decision, given⟩ := Option.isSome_iff_exists.mp (each name member)
    rw [given]
    cases decision <;> rfl
  rw [declined, ← List.length_eq_length_filter_add]

end

/-- A list approves the names whose last value is `true`, in the order of their first mentions, and
counts those whose last value is `false`; together these are all names, each once. It is faulty when
the last value of some name is no boolean, and the first such name is the one reported. -/
theorem parse_partitions_names (text : Text) :
    (∀ members, members? text = some members →
      let names := memberNames members
      ((∃ list, parse text = .ok list) ↔ ∀ name ∈ names, (decision? members name).isSome) ∧
      (∀ list, parse text = .ok list →
        list.names = names.filter (decision? members · = some true) ∧ list.names.Nodup ∧
        list.declined = (names.filter (decision? members · = some false)).length ∧
        list.names.length + list.declined = names.length) ∧
      ∀ error, parse text = .error error → ∃ before name after value,
        names = before ++ name :: after ∧
        (∀ earlier ∈ before, (decision? members earlier).isSome) ∧
        lastValue? members name = some value ∧ value.bool? = none ∧
        error = .notBoolean name value.settle) ∧
    (members? text = none → parse text = .error .notAnObject) := by
  refine ⟨fun members written => ?_, parse_of_members?_eq_none⟩
  intro names
  rcases decided_or_first_undecided members names with
    each | ⟨before, name, after, split, each, undecided⟩
  · have parsed := parse_of_decided written each
    refine ⟨⟨fun _ => each, fun _ => ⟨_, parsed⟩⟩, ?_, ?_⟩
    · intro list found
      cases found.symm.trans parsed
      exact ⟨rfl, (nodup_eraseDups _).filter _, rfl, length_decided each⟩
    · intro error found
      cases found.symm.trans parsed
  · obtain ⟨value, last, parsed⟩ := parse_of_undecided written split each undecided
    refine ⟨⟨?_, ?_⟩, ?_, ?_⟩
    · rintro ⟨list, found⟩
      cases found.symm.trans parsed
    · intro all
      have given := all name (split ▸ List.mem_append_right before List.mem_cons_self)
      rw [undecided] at given
      cases given
    · intro list found
      cases found.symm.trans parsed
    · intro error found
      cases found.symm.trans parsed
      rw [decision?, last] at undecided
      exact ⟨before, name, after, value, split, each, last, undecided, rfl⟩

/-- An object that is written out is read as its members, repeated names included. -/
theorem members?_pretty {members : List (String × Json)}
    (each : ∀ member ∈ members, Exact member.2)
    (readable : ((object members).isReadable && (object members).depth ≤ depthLimit) = true) :
    members? (object members).pretty = some members := by
  rw [members?, (Exact.object each).read?_pretty, Option.filter_some, if_pos readable]

/-- Members of which the later ones change what is said of their names. -/
def changedNames : List (String × Json) :=
  [("b", .null), ("a", .bool true), ("b", .bool true), ("a", .bool false)]

/-- Members of which the last one of the first name is no boolean, nor is that of another one. -/
def faultyNames : List (String × Json) := [("b", .bool true), ("c", .string "yes"), ("b", .null)]

theorem parse_partitions_names_changed :
    (∃ list, parse (object changedNames).pretty = .ok list ∧ list.names = ["b"] ∧
      list.declined = 1 ∧ list.names.length + list.declined = 2) ∧
    parse (object faultyNames).pretty = .error (.notBoolean "b" .null) := by
  have written : members? (object changedNames).pretty = some changedNames :=
    members?_pretty (List.forall_mem_cons.mpr ⟨.null, List.forall_mem_cons.mpr ⟨.bool true,
      List.forall_mem_cons.mpr ⟨.bool true, List.forall_mem_singleton.mpr (.bool false)⟩⟩⟩) rfl
  have faulty : members? (object faultyNames).pretty = some faultyNames :=
    members?_pretty (List.forall_mem_cons.mpr ⟨.bool true, List.forall_mem_cons.mpr
      ⟨.string "yes", List.forall_mem_singleton.mpr .null⟩⟩) rfl
  obtain ⟨settled, parsed, -⟩ := (parse_partitions_names (object changedNames).pretty).1 _ written
  obtain ⟨undecided, -, reported⟩ :=
    (parse_partitions_names (object faultyNames).pretty).1 _ faulty
  constructor
  · obtain ⟨list, found⟩ := settled.mpr (by decide)
    obtain ⟨names, -, declined, whole⟩ := parsed list found
    exact ⟨list, found, names.trans (by decide), declined.trans (by decide),
      whole.trans (by decide)⟩
  · cases found : parse (object faultyNames).pretty with
    | ok list => exact absurd (undecided.mp ⟨list, found⟩) (by decide)
    | error error =>
      obtain ⟨before, name, after, value, split, each, last, -, rfl⟩ := reported error found
      cases before with
      | nil =>
        cases split
        cases last
        rfl
      | cons first before =>
        obtain rfl : "b" = first := (List.cons.inj split).1
        exact absurd (each "b" List.mem_cons_self) (by decide)

end QuestRecords.ApprovedList
