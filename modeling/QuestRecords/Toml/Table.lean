import QuestRecords.Toml.Value

/-! Tables being filled. Every key is set once; dotted keys and headers lead through tables on the
way and make those that are missing. -/
namespace QuestRecords.Toml

/-- Gives a key its value, in place of an old one. -/
def setEntry (entries : Entries) (key : String) (value : Value) : Entries :=
  if (entries.lookup key).isSome then
    entries.map fun old => if old.1 = key then (key, value) else old
  else entries ++ [(key, value)]

/-- Sets the key at the end of a dotted path. Tables of dotted keys may be extended by dotted keys
only; those on the way may also be implied by a header. -/
def assign? (entries : Entries) (value : Value) : List String → Option Entries
  | [] => none
  | [key] => if (entries.lookup key).isSome then none else some (entries ++ [(key, value)])
  | key :: rest =>
    match entries.lookup key with
    | none => (assign? [] value rest).map fun inner => setEntry entries key (.table .dotted inner)
    | some (.table origin inner) =>
      if origin = .dotted ∨ (origin = .implied ∧ 1 < rest.length) then
        (assign? inner value rest).map fun inner => setEntry entries key (.table origin inner)
      else none
    | some _ => none

/-- The table with several dotted keys set in order. -/
def assignAll? (entries : Entries) (assignments : List (List String × Value)) : Option Entries :=
  assignments.foldlM (fun entries (path, value) => assign? entries value path) entries

/-- Defines the table of a header by filling it. A table that was only implied may still be
defined; a repeated header adds a table to its list. -/
def define? (repeated : Bool) (fill : Entries → Option Entries) (entries : Entries) :
    List String → Option Entries
  | [] => none
  | [key] =>
    match repeated, entries.lookup key with
    | false, none => (fill []).map fun inner => setEntry entries key (.table .header inner)
    | false, some (.table .implied old) =>
      (fill old).map fun inner => setEntry entries key (.table .header inner)
    | true, none => (fill []).map fun inner => setEntry entries key (.tables [inner])
    | true, some (.tables items) =>
      (fill []).map fun inner => setEntry entries key (.tables (items ++ [inner]))
    | _, _ => none
  | key :: rest =>
    match entries.lookup key with
    | none =>
      (define? repeated fill [] rest).map fun inner => setEntry entries key (.table .implied inner)
    | some (.table origin inner) =>
      if origin = .inline then none
      else (define? repeated fill inner rest).map fun inner =>
        setEntry entries key (.table origin inner)
    | some (.tables items) =>
      match items.getLast? with
      | some last => (define? repeated fill last rest).map fun inner =>
          setEntry entries key (.tables (items.dropLast ++ [inner]))
      | none => none
    | some _ => none

end QuestRecords.Toml
