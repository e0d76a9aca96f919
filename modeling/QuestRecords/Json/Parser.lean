import QuestRecords.Json.Token

/-! Reading JSON. The text is cut into tokens, and the tokens drive a machine with a stack of the
arrays and objects that are still open. -/
namespace QuestRecords.Json

namespace Token

theorem length_parts?_lt {text after : Text} {parts : List Part}
    (read : parts? text = some (parts, after)) : after.length < text.length := by
  fun_induction parts? text generalizing parts after with
  | case1 => simp at read
  | case2 rest => cases read; simp
  | case3 a b c d rest ih =>
    simp only [Option.bind_eq_bind, Option.bind_eq_some_iff, Prod.exists] at read
    obtain ⟨_, _, inner, left, found, same⟩ := read
    cases same
    have := ih found
    simp only [List.length_cons]
    omega
  | case4 c rest _ ih =>
    simp only [Option.bind_eq_bind, Option.bind_eq_some_iff, Prod.exists] at read
    obtain ⟨_, _, inner, left, found, same⟩ := read
    cases same
    have := ih found
    simp only [List.length_cons]
    omega
  | case5 => simp at read
  | case6 c rest _ _ _ _ ih =>
    obtain ⟨⟨inner, left⟩, found, same⟩ := Option.map_eq_some_iff.mp read
    cases same
    have := ih found
    simp only [List.length_cons]
    omega

theorem length_digits?_lt {text after : Text} {digits : List Nat}
    (read : digits? text = some (digits, after)) : after.length < text.length := by
  unfold digits? at read
  dsimp only at read
  split at read
  · simp at read
  · rename_i some_digit
    cases read
    have whole := congrArg List.length
      (List.takeWhile_append_dropWhile (p := Char.isDigit) (l := text))
    have := List.length_pos_iff.mpr some_digit
    simp only [List.length_append] at whole
    omega

theorem length_fraction?_le {text after : Text} {digits : List Nat} {present : Bool}
    (read : fraction? text = some (digits, present, after)) : after.length ≤ text.length := by
  unfold fraction? at read
  split at read
  · obtain ⟨⟨inner, left⟩, found, same⟩ := Option.map_eq_some_iff.mp read
    cases same
    have := length_digits?_lt found
    simp only [List.length_cons]
    omega
  · cases read
    omega

theorem length_exponent?_le {text after : Text} {exponent : Option (Bool × List Nat)}
    (read : exponent? text = some (exponent, after)) : after.length ≤ text.length := by
  unfold exponent? at read
  split at read
  · split at read
    · obtain ⟨⟨inner, left⟩, found, same⟩ := Option.map_eq_some_iff.mp read
      cases same
      have := length_digits?_lt found
      simp only [List.length_cons]
      split at this <;> simp_all only [List.length_cons] <;> omega
    · cases read
      simp
  · cases read
    simp

theorem length_unsigned?_lt {negative : Bool} {text after : Text} {literal : Literal}
    (read : unsigned? negative text = some (literal, after)) : after.length < text.length := by
  unfold unsigned? at read
  simp only [Option.bind_eq_bind, Option.bind_eq_some_iff, Prod.exists] at read
  obtain ⟨whole, rest, first, fraction, present, rest', second, exponent, rest'', third,
    same⟩ := read
  cases same
  have := length_digits?_lt (Option.filter_eq_some_iff.mp first).1
  have := length_fraction?_le second
  have := length_exponent?_le third
  omega

theorem length_literal?_lt {text after : Text} {literal : Literal}
    (read : literal? text = some (literal, after)) : after.length < text.length := by
  unfold literal? at read
  split at read
  · have := length_unsigned?_lt read
    simp only [List.length_cons]
    omega
  · exact length_unsigned?_lt read

theorem length_after?_le {word text after : Text} (read : Text.after? word text = some after) :
    after.length ≤ text.length := by
  simp [Text.after?_eq_some_iff.mp read]

theorem length_scalar?_le {c : Char} {rest after : Text} {token : Token}
    (read : scalar? c rest = some (token, after)) : after.length ≤ rest.length := by
  unfold scalar? at read
  split at read
  · obtain ⟨⟨parts, left⟩, found, same⟩ := Option.map_eq_some_iff.mp read
    cases same
    exact Nat.le_of_lt (length_parts?_lt found)
  split at read
  · obtain ⟨left, found, same⟩ := Option.map_eq_some_iff.mp read
    cases same
    exact length_after?_le found
  split at read
  · obtain ⟨left, found, same⟩ := Option.map_eq_some_iff.mp read
    cases same
    exact length_after?_le found
  split at read
  · obtain ⟨left, found, same⟩ := Option.map_eq_some_iff.mp read
    cases same
    exact length_after?_le found
  · obtain ⟨⟨literal, left⟩, found, same⟩ := Option.map_eq_some_iff.mp read
    cases same
    exact Nat.le_of_lt_succ (length_literal?_lt found)

theorem length_next?_le {c : Char} {rest after : Text} {token : Token}
    (read : next? c rest = some (token, after)) : after.length ≤ rest.length := by
  unfold next? at read
  split at read
  · cases read
    exact Nat.le_refl _
  · exact length_scalar?_le read

/-- The tokens of a text, if it consists of tokens and space. -/
def lex? : Text → Option (List Token)
  | [] => some []
  | c :: rest =>
    if isSpace c then lex? rest
    else
      match _read : next? c rest with
      | none => none
      | some (token, after) => (lex? after).map (token :: ·)
termination_by text => text.length
decreasing_by
  · simp
  · have := length_next?_le _read
    simp only [List.length_cons]
    omega

end Token

/-- An array or an object that is still open: the items before the current one, or the members
before the current one and its name. The latest comes first. -/
inductive Frame where
  | items (before : List Json)
  | members (before : List (Option String × Json)) (name : Option String)

/-- What may come next. -/
inductive Expected where
  | value
  | itemOrClose
  | nameOrClose
  | name (before : List (Option String × Json))
  | colon (before : List (Option String × Json)) (name : Option String)
  | done (value : Json)

/-- The object of the members given last first, if all their names can be read. -/
def closeObject (members : List (Option String × Json)) : Json :=
  match members.reverse.mapM fun (name, value) => name.map (·, value) with
  | some members => .object members
  | none => .unreadable

/-- The state of the machine: what is expected, and the open frames, innermost first. -/
structure Machine where
  expected : Expected
  stack : List Frame

namespace Machine

/-- Takes the first token of a value. -/
def startValue? (stack : List Frame) : Token → Option Machine
  | .openBrace => some ⟨.nameOrClose, stack⟩
  | .openBracket => some ⟨.itemOrClose, stack⟩
  | .text (some value) => some ⟨.done (.string value), stack⟩
  | .text none => some ⟨.done .unreadable, stack⟩
  | .scalar value => some ⟨.done value, stack⟩
  | _ => none

/-- Takes a token behind a complete value. -/
def afterValue? (value : Json) (stack : List Frame) (token : Token) : Option Machine :=
  match stack, token with
  | .items before :: stack, .comma => some ⟨.value, .items (value :: before) :: stack⟩
  | .items before :: stack, .closeBracket => some ⟨.done (.array (value :: before).reverse), stack⟩
  | .members before name :: stack, .comma => some ⟨.name ((name, value) :: before), stack⟩
  | .members before name :: stack, .closeBrace =>
    some ⟨.done (closeObject ((name, value) :: before)), stack⟩
  | _, _ => none

def step? (machine : Machine) (token : Token) : Option Machine :=
  match machine.expected, token with
  | .value, token => startValue? machine.stack token
  | .itemOrClose, .closeBracket => some ⟨.done (.array []), machine.stack⟩
  | .itemOrClose, token => startValue? (.items [] :: machine.stack) token
  | .nameOrClose, .closeBrace => some ⟨.done (.object []), machine.stack⟩
  | .nameOrClose, .text name => some ⟨.colon [] name, machine.stack⟩
  | .nameOrClose, _ => none
  | .name before, .text name => some ⟨.colon before name, machine.stack⟩
  | .name _, _ => none
  | .colon before name, .colon => some ⟨.value, .members before name :: machine.stack⟩
  | .colon _ _, _ => none
  | .done value, token => afterValue? value machine.stack token

/-- The document that has been read, once nothing is open any more. -/
def result? : Machine → Option Json
  | ⟨.done value, []⟩ => some value
  | _ => none

end Machine

/-- The document that a list of tokens spells. -/
def ofTokens? (tokens : List Token) : Option Json :=
  (tokens.foldlM Machine.step? ⟨.value, []⟩).bind Machine.result?

/-- Reads a document as it is written; parts without a value are kept as such. -/
def read? (text : Text) : Option Json := (Token.lex? text).bind ofTokens?

/-- The largest number of arrays and objects inside one another. -/
def depthLimit : Nat := 127

/-- Reads a document in which every part has a value and each member name of an object has one,
the last; nesting is limited. -/
def parse? (text : Text) : Option Json :=
  ((read? text).filter fun json => json.isReadable && json.depth ≤ depthLimit).map settle

end QuestRecords.Json
