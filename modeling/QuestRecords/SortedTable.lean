/-! Tables whose keys are texts in ascending order, one entry for each. -/
namespace QuestRecords

structure SortedTable (Value : Type) where
  entries : List (String × Value)

namespace SortedTable

variable {Value : Type}

def empty : SortedTable Value := ⟨[]⟩

instance : EmptyCollection (SortedTable Value) := ⟨empty⟩

def get? (table : SortedTable Value) (key : String) : Option Value := table.entries.lookup key

def keys (table : SortedTable Value) : List String := table.entries.map (·.1)

def values (table : SortedTable Value) : List Value := table.entries.map (·.2)

def size (table : SortedTable Value) : Nat := table.entries.length

/-- Changes the value of a key in place, or puts a new entry where the order wants it. -/
def alterEntries (key : String) (change : Option Value → Value) :
    List (String × Value) → List (String × Value)
  | [] => [(key, change none)]
  | (other, value) :: rest =>
    if key = other then (key, change (some value)) :: rest
    else if key < other then (key, change none) :: (other, value) :: rest
    else (other, value) :: alterEntries key change rest

/-- Gives a key the value computed from its old one, if it has one. -/
def alter (table : SortedTable Value) (key : String) (change : Option Value → Value) :
    SortedTable Value := ⟨alterEntries key change table.entries⟩

/-- Gives a key a value, in place of an old one. -/
def insert (table : SortedTable Value) (key : String) (value : Value) : SortedTable Value :=
  table.alter key fun _ => value

theorem get?_alter (table : SortedTable Value) (key other : String)
    (change : Option Value → Value) (ascending : table.entries.Pairwise (·.1 < ·.1)) :
    (table.alter key change).get? other =
      if other = key then some (change (table.get? key)) else table.get? other := by
  obtain ⟨entries⟩ := table
  simp only [alter, get?] at *
  induction entries with
  | nil =>
    by_cases same : other = key
    · simp [alterEntries, same]
    · have apart : (other == key) = false := by simpa using same
      simp [alterEntries, List.lookup_cons, apart, same]
  | cons entry rest ih =>
    obtain ⟨name, value⟩ := entry
    obtain ⟨above, later⟩ := List.pairwise_cons.mp ascending
    have ih := ih later
    by_cases found : key = name
    · subst found
      by_cases same : other = key
      · simp [alterEntries, same]
      · have apart : (other == key) = false := by simpa using same
        simp [alterEntries, List.lookup_cons, apart, same]
    · have distinct : (key == name) = false := by simpa using found
      by_cases before : key < name
      · have missing : rest.lookup key = none := by
          apply List.lookup_eq_none_iff.mpr
          intro entry member
          have larger := above entry member
          have : key < entry.1 := String.lt_trans before larger
          simpa using String.ne_of_lt this
        by_cases same : other = key
        · subst same
          simp [alterEntries, found, before, List.lookup_cons, distinct, missing]
        · have apart : (other == key) = false := by simpa using same
          simp [alterEntries, found, before, List.lookup_cons, apart, same]
      · by_cases here : other = name
        · subst here
          simp [alterEntries, found, before, Ne.symm found]
        · have apart : (other == name) = false := by simpa using here
          simp [alterEntries, found, before, List.lookup_cons, apart, distinct, ih]

end SortedTable
end QuestRecords
