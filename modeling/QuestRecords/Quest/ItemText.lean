import QuestRecords.Diagnostics.Logged
import QuestRecords.Quest.Bindings
import QuestRecords.Source.Assignment
import QuestRecords.Source.Literal

/-! The texts under which required items are shown. A variable has a text of its own or is an
alias of another variable; the text of an alias is that of the end of its chain. -/
namespace QuestRecords

/-- Variables with a text of their own, and aliases with the variable they were made from. -/
structure ItemTexts where
  direct : Bindings String := ∅
  aliases : Bindings String := ∅

/-- What following the aliases of a variable leads to. -/
inductive Resolution where
  /-- A text, `depth` aliases away. -/
  | resolved (display : String) (depth : Nat)
  /-- A variable that is neither bound nor an alias. -/
  | missing (last : String)
  /-- A variable that was met before. -/
  | cycle (repeated : String)
  deriving DecidableEq

def Resolution.display? : Resolution → Option String
  | resolved display _ => some display
  | _ => none

namespace ItemTexts

def bindText (texts : ItemTexts) (name display : String) : ItemTexts :=
  { texts with direct := texts.direct.insertFirst name display }

def bindAlias (texts : ItemTexts) (name base : String) : ItemTexts :=
  { texts with aliases := texts.aliases.insertFirst name base }

theorem mem_names_of_get? {Value : Type} {bindings : Bindings Value} {name : String}
    {value : Value} (found : bindings.get? name = some value) : name ∈ bindings.names := by
  obtain ⟨entries⟩ := bindings
  simp only [Bindings.get?, Bindings.names] at *
  induction entries with
  | nil => simp at found
  | cons entry rest ih =>
    obtain ⟨bound, old⟩ := entry
    by_cases same : name = bound
    · simp [same]
    · have apart : (name == bound) = false := by simpa using same
      simp only [List.lookup_cons, apart] at found
      exact List.mem_cons_of_mem _ (ih found)

/-- Follows aliases from a variable, given those already passed. -/
def follow (texts : ItemTexts) (passed : List String) (current : String) : Resolution :=
  match texts.direct.get? current with
  | some display => .resolved display passed.length
  | none =>
    if _fresh : current ∈ passed then .cycle current
    else
      match _linked : texts.aliases.get? current with
      | some base => follow texts (current :: passed) base
      | none => .missing current
termination_by (texts.aliases.names.filter (· ∉ passed)).length
decreasing_by
  have known := mem_names_of_get? _linked
  have fewer : texts.aliases.names.filter (· ∉ current :: passed) =
      (texts.aliases.names.filter (· ∉ passed)).filter (· ≠ current) := by
    simp [List.filter_filter, List.mem_cons, not_or]
  rw [fewer]
  apply List.length_filter_lt_length_iff_exists.mpr
  exact ⟨current, List.mem_filter.mpr ⟨known, by simpa using _fresh⟩, by simp⟩

/-- What a variable leads to. -/
def resolve (texts : ItemTexts) (name : String) : Resolution := texts.follow [] name

open Source Source.Reader Text

/-- The types whose first argument may be the text of an item. -/
def itemTypes : List String := ["ItemRequirements", "ItemRequirement", "FollowerItemRequirement"]

/-- An item with a literal as first argument, assigned at a place: the variable, and the text from
the opening quote on. -/
def directAt? (site : Site) : Option (Text × Text) := do
  let (name, rest) ← assigned? site
  match ← newOfAny? itemTypes rest with
  | '(' :: args =>
    match skipBlanks args with
    | '"' :: literal => some (name, '"' :: literal)
    | _ => none
  | _ => none

/-- Reads the call that makes an alias from a variable: highlighting it or changing its count. -/
def modifier? (text : Text) : Option Text :=
  ((word? "highlighted" text).bind fun rest =>
    (spacedChar? '(' rest).bind (spacedChar? ')')).orElse fun _ =>
      (word? "quantity" text).bind (spacedChar? '(')

/-- An alias assigned at a place, and the variable it is made from. -/
def aliasAt? (site : Site) : Option (Text × Text) := do
  let (name, rest) ← assigned? site
  let (base, rest) ← name? rest
  let _ ← modifier? (skipBlanks (← spacedChar? '.' rest))
  return (name, base)

/-- Binds the text of an item, or warns that it has no end. -/
def addDirect (texts : ItemTexts) (item : Text × Text) : Logged ItemTexts := do
  let name := String.ofList item.1
  match Literal.chain? item.2 with
  | some (display, _) => return texts.bindText name (String.ofList display)
  | none =>
    Logged.raise (.warning .unreadableLiteral "Unreadable requirement display text"
      [("variable", name)])
    return texts

/-- The texts and aliases that a body sets up. -/
def extract (body : Text) : Logged ItemTexts := do
  let texts ← (findAll directAt? body).foldlM addDirect {}
  return (findAll aliasAt? body).foldl
    (fun texts (name, base) => texts.bindAlias (String.ofList name) (String.ofList base)) texts

end ItemTexts
end QuestRecords
