import QuestRecords.Json.Parser
import QuestRecords.Proofs.Repetitions

namespace QuestRecords.Json

def memberNames (members : List (String × Json)) : List String := (members.map (·.1)).eraseDups

def lastValue? (members : List (String × Json)) (name : String) : Option Json :=
  members.reverse.lookup name

section

variable {members : List (String × Json)} {name other : String} {value : Json}

theorem lookup_putMember : (putMember name value members).lookup other =
    if other = name then some value else members.lookup other := by
  induction members with
  | nil => rw [putMember, lookup_cons_eq_ite]
  | cons member rest ih =>
    obtain ⟨first, old⟩ := member
    rw [putMember]
    split
    · rename_i here
      subst here
      rw [lookup_cons_eq_ite, lookup_cons_eq_ite]
      split <;> rfl
    · rename_i elsewhere
      rw [lookup_cons_eq_ite, lookup_cons_eq_ite, ih]
      by_cases same : other = first
      · subst same
        rw [if_pos rfl, if_neg elsewhere, if_pos rfl]
      · rw [if_neg same, if_neg same]

theorem names_putMember_of_mem (met : name ∈ members.map (·.1)) :
    (putMember name value members).map (·.1) = members.map (·.1) := by
  induction members with
  | nil => cases met
  | cons member rest ih =>
    obtain ⟨first, old⟩ := member
    rw [putMember]
    split
    · rename_i here
      simp [here]
    · rename_i elsewhere
      have later := (List.mem_cons.mp met).resolve_left (Ne.symm elsewhere)
      rw [List.map_cons, List.map_cons, ih later]

theorem names_putMember_of_notMem (fresh : name ∉ members.map (·.1)) :
    (putMember name value members).map (·.1) = members.map (·.1) ++ [name] := by
  induction members with
  | nil => rfl
  | cons member rest ih =>
    obtain ⟨first, old⟩ := member
    obtain ⟨elsewhere, later⟩ := not_or.mp (mt List.mem_cons.mpr fresh)
    rw [putMember, if_neg (Ne.symm elsewhere), List.map_cons, List.map_cons, ih later,
      List.cons_append]

end

theorem distinctMembers_concat (members : List (String × Json)) (member : String × Json) :
    distinctMembers (members ++ [member]) =
      putMember member.1 member.2 (distinctMembers members) := by
  rw [distinctMembers, List.foldl_concat]
  rfl

theorem names_distinctMembers (members : List (String × Json)) :
    (distinctMembers members).map (·.1) = memberNames members := by
  induction members using List.reverseRecOn with
  | nil => rfl
  | append_singleton members member ih =>
    rw [distinctMembers_concat, memberNames, List.map_append, List.map_singleton]
    by_cases met : member.1 ∈ members.map (·.1)
    · rw [eraseDups_concat_of_mem met, names_putMember_of_mem, ih, memberNames]
      rw [ih, memberNames, List.mem_eraseDups]
      exact met
    · rw [eraseDups_concat_of_notMem met, names_putMember_of_notMem, ih, memberNames]
      rw [ih, memberNames, List.mem_eraseDups]
      exact met

theorem lookup_distinctMembers (members : List (String × Json)) (name : String) :
    (distinctMembers members).lookup name = lastValue? members name := by
  induction members using List.reverseRecOn with
  | nil => rfl
  | append_singleton members member ih =>
    rw [distinctMembers_concat, lookup_putMember, ih, lastValue?, lastValue?,
      List.reverse_concat, lookup_cons_eq_ite]

theorem settleMembers_eq_map (members : List (String × Json)) :
    settleMembers members = members.map fun member => (member.1, member.2.settle) := by
  induction members with
  | nil => rfl
  | cons member members ih =>
    obtain ⟨name, value⟩ := member
    rw [settleMembers, ih, List.map_cons]

theorem memberNames_settleMembers (members : List (String × Json)) :
    memberNames (settleMembers members) = memberNames members := by
  rw [settleMembers_eq_map, memberNames, List.map_map, memberNames]
  rfl

theorem lastValue?_settleMembers (members : List (String × Json)) (name : String) :
    lastValue? (settleMembers members) name = (lastValue? members name).map settle := by
  rw [settleMembers_eq_map, lastValue?, ← List.map_reverse, lastValue?]
  induction members.reverse with
  | nil => rfl
  | cons member rest ih =>
    rw [List.map_cons, List.lookup_cons, List.lookup_cons, ih]
    cases name == member.1 <;> rfl

/-- The members of an object as its text gives them, repeated names included. A text gives none when
it is no object, when one of its parts has no value, and when it is nested too deeply. -/
def members? (text : Text) : Option (List (String × Json)) :=
  match (read? text).filter fun json => json.isReadable && json.depth ≤ depthLimit with
  | some (.object members) => some members
  | _ => none

end QuestRecords.Json
