/-! Names bound to values. The first binding of a name stays; names keep the order in which they
were first bound. -/
namespace QuestRecords

/-- Bindings in the order of discovery, one for each name. -/
structure Bindings (Value : Type) where
  entries : List (String × Value)

namespace Bindings

variable {Value : Type}

def empty : Bindings Value := ⟨[]⟩

instance : EmptyCollection (Bindings Value) := ⟨empty⟩

def get? (bindings : Bindings Value) (name : String) : Option Value :=
  bindings.entries.lookup name

def names (bindings : Bindings Value) : List String := bindings.entries.map (·.1)

def toList (bindings : Bindings Value) : List Value := bindings.entries.map (·.2)

def size (bindings : Bindings Value) : Nat := bindings.entries.length

def isBound (bindings : Bindings Value) (name : String) : Bool := (bindings.get? name).isSome

/-- Binds a name, unless it is bound already. -/
def insertFirst (bindings : Bindings Value) (name : String) (value : Value) : Bindings Value :=
  if bindings.isBound name then bindings else ⟨bindings.entries ++ [(name, value)]⟩

/-- The bindings of a list, of which the first of each name stays. -/
def ofList (pairs : List (String × Value)) : Bindings Value :=
  pairs.foldl (fun bindings (name, value) => bindings.insertFirst name value) empty

theorem get?_empty (name : String) : (empty : Bindings Value).get? name = none := rfl

theorem get?_insertFirst (bindings : Bindings Value) (name other : String) (value : Value) :
    (bindings.insertFirst name value).get? other =
      if other = name then some ((bindings.get? name).getD value) else bindings.get? other := by
  by_cases bound : bindings.isBound name = true
  · obtain ⟨old, found⟩ := Option.isSome_iff_exists.mp bound
    by_cases same : other = name
    · subst same
      simp [insertFirst, bound, found]
    · simp [insertFirst, bound, same]
  · have missing : bindings.get? name = none := by simpa [isBound] using bound
    have added : (bindings.insertFirst name value).get? other =
        (bindings.get? other).or (List.lookup other [(name, value)]) := by
      rw [insertFirst, if_neg bound, get?, List.lookup_append]
      rfl
    rw [added]
    by_cases same : other = name
    · subst same
      simp [missing]
    · have apart : (other == name) = false := by simpa using same
      simp [List.lookup_cons, apart, same]

/-- After bindings were added in order, the first of each name stands, unless it was bound before. -/
theorem get?_foldl_insertFirst (pairs : List (String × Value)) (bindings : Bindings Value)
    (name : String) :
    (pairs.foldl (fun bindings pair => bindings.insertFirst pair.1 pair.2) bindings).get? name =
      (bindings.get? name).or (pairs.lookup name) := by
  induction pairs generalizing bindings with
  | nil => simp
  | cons pair pairs ih =>
    rw [List.foldl_cons, ih, get?_insertFirst, List.lookup_cons]
    by_cases same : name = pair.1
    · subst same
      cases bindings.get? pair.1 <;> simp
    · have apart : (name == pair.1) = false := by simpa using same
      simp [same, apart]

end Bindings
end QuestRecords
