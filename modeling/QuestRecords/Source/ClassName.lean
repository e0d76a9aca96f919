import QuestRecords.Source.Reader

/-! The public class that a source declares. -/
namespace QuestRecords.Source

open Text Reader

/-- Reads `abstract` or `final` and the blanks behind it. -/
def modifier? (text : Text) : Option Text :=
  ((word? "abstract" text).orElse fun _ => word? "final" text).bind skipBlanks1?

theorem length_skipBlanks1?_lt {text rest : Text} (read : skipBlanks1? text = some rest) :
    rest.length < text.length := by
  cases text with
  | nil => simp [skipBlanks1?] at read
  | cons c text =>
    simp only [skipBlanks1?, Option.ite_none_right_eq_some, Option.some.injEq] at read
    have := (List.dropWhile_sublist isBlank (l := text)).length_le
    simp only [← read.2, skipBlanks, List.length_cons]
    omega

theorem length_modifier?_lt {text rest : Text} (read : modifier? text = some rest) :
    rest.length < text.length := by
  obtain ⟨after, word, blanks⟩ := Option.bind_eq_some_iff.mp read
  have shorter := length_skipBlanks1?_lt blanks
  have words : ∀ expected : String, word? expected text = some after →
      after.length ≤ text.length := by
    intro expected found
    simp [after?_eq_some_iff.mp found]
  cases first : word? "abstract" text with
  | some other =>
    have same : other = after := by simpa [first] using word
    have := words _ (same ▸ first)
    omega
  | none =>
    have := words "final" (by simpa [first] using word)
    omega

/-- Skips modifiers as often as they stand here. -/
def skipModifiers (text : Text) : Text :=
  match _read : modifier? text with
  | some rest => skipModifiers rest
  | none => text
termination_by text.length
decreasing_by exact length_modifier?_lt _read

/-- The name in a class declaration that starts at a place. -/
def classNameAt? (site : Site) : Option Text := do
  if !startsWord site then none
  let modifiers ← skipBlanks1? (← word? "public" site.ahead)
  let name ← skipBlanks1? (← word? "class" (skipModifiers modifiers))
  let (name, _) ← nameOf? (fun c => c.isAlpha || c == '_' || c == '$')
    (fun c => isWord c || c == '$') name
  return name

/-- The name of the first public class that a source declares. -/
def declaredClass? (source : Text) : Option Text := findFirst? classNameAt? source

end QuestRecords.Source
