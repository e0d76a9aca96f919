import QuestRecords.Pattern.Escape

/-! Reading the sets that patterns write in brackets. -/
namespace QuestRecords.Pattern

/-- Operators between sets; all bind alike, and to the left. -/
inductive SetOperator where
  | intersection
  | difference
  | symmetricDifference

def SetOperator.apply : SetOperator → CharSet → CharSet → CharSet
  | intersection => CharSet.intersection
  | difference => CharSet.difference
  | symmetricDifference => CharSet.symmetricDifference

/-- Sets in brackets, as far as they were read: where they were opened, whether everything but
them is meant, what stands before the last operator, and what stands behind it. -/
structure OpenSet where
  start : Text
  /-- The text ahead behind the opening bracket and what belongs to it. -/
  inside : Text
  negated : Bool
  before : Option (CharSet × SetOperator) := none
  items : CharSet

namespace OpenSet

def unclosed (opened : OpenSet) : Except PatternError α :=
  fail .classUnclosed opened.start opened.inside

def add (opened : OpenSet) (set : CharSet) : OpenSet :=
  { opened with items := opened.items.union set }

/-- All that was read so far, as one set. -/
def joined (opened : OpenSet) (flags : Flags) : CharSet :=
  match opened.before with
  | some (left, operator) => operator.apply (flags.cased left) (flags.cased opened.items)
  | none => opened.items

/-- Goes on behind an operator. -/
def operate (opened : OpenSet) (flags : Flags) (operator : SetOperator) : OpenSet :=
  { opened with before := some (opened.joined flags, operator), items := .nothing }

/-- The set at its closing bracket, behind which the text `stop` stands. -/
def close (opened : OpenSet) (flags : Flags) (stop : Text) : Except PatternError CharSet :=
  let set := flags.cased (opened.joined flags)
  if opened.negated then flags.complement set opened.start stop else .ok set

end OpenSet

/-- Reads hyphens that stand for themselves behind an opening bracket. -/
def leadingHyphens (flags : Flags) (start : Text) :
    Nat → Bool → Text → Except PatternError (Bool × Text)
  | 0, seen, text => .ok (seen, text)
  | bound + 1, seen, text =>
    match text with
    | '-' :: rest =>
      match flags.skip rest with
      | [] => fail .classUnclosed start start
      | rest => leadingHyphens flags start bound true rest
    | text => .ok (seen, text)

/-- Reads an opening bracket, a negation, and hyphens or a closing bracket that stand for
themselves. -/
def openSet (flags : Flags) (start : Text) : Except PatternError (OpenSet × Text) := do
  let text := flags.skip (start.drop 1)
  if text.isEmpty then fail .classUnclosed start []
  let negated := text.head? = some '^'
  let text := if negated then flags.skip (text.drop 1) else text
  if text.isEmpty then fail .classUnclosed start []
  let (hyphens, text) ← leadingHyphens flags start text.length false text
  let items := if hyphens then CharSet.single '-' else .nothing
  match hyphens, text with
  | false, ']' :: rest =>
    match flags.skip rest with
    | [] => fail .classUnclosed start []
    | rest => return (⟨start, rest, negated, none, .single ']'⟩, rest)
  | _, text => return (⟨start, text, negated, none, items⟩, text)

/-- Reads a set of ASCII characters that is named between colons, behind the opening bracket. -/
def asciiSet? (text : Text) : Option (CharSet × Bool × Text) :=
  match text with
  | ':' :: text =>
    let negated := text.head? = some '^'
    let text := if negated then text.drop 1 else text
    match text.dropWhile (· ≠ ':') with
    | ':' :: ']' :: rest =>
      (CharSet.ofAsciiName? (String.ofList (text.takeWhile (· ≠ ':')))).map (·, negated, rest)
    | _ => none
  | _ => none

/-- Reads one member of a set: an escape, or a character. -/
def member (flags : Flags) (text : Text) : Except PatternError (Primitive × Text) :=
  match text with
  | [] => fail .escapeUnclosed [] []
  | '\\' :: rest => escape flags text rest
  | c :: rest => .ok (.character c, rest)

/-- The character that bounds a range, which was read between two places. -/
def boundOf (start stop : Text) : Primitive → Except PatternError Char
  | .character c => .ok c
  | _ => fail .rangeBoundary start stop

/-- A member as a set, which was read between two places. -/
def setOf (start stop : Text) : Primitive → Except PatternError CharSet
  | .character c => .ok (.single c)
  | .oneOf set => .ok set
  | .place _ => fail .classEscape start stop

/-- Reads a member, or a range of two. -/
def range (flags : Flags) (opened : OpenSet) (text : Text) :
    Except PatternError (CharSet × Text) := do
  let (first, behind) ← member flags text
  match flags.skip behind with
  | [] => opened.unclosed
  | '-' :: rest =>
    if (flags.skip rest).head? = some ']' ∨ (flags.skip rest).head? = some '-' then
      return (← setOf text behind first, '-' :: rest)
    if (flags.skip rest).isEmpty then opened.unclosed
    let (last, stop) ← member flags (flags.skip rest)
    let first ← boundOf text behind first
    let last ← boundOf (flags.skip rest) stop last
    if last < first then fail .rangeOrder text stop
    return (.interval first.toNat last.toNat, stop)
  | rest => return (← setOf text behind first, rest)

/-- Reads what follows in open brackets, and the closing one; the number bounds how many steps. -/
def setItems (flags : Flags) : Nat → OpenSet → Text → Except PatternError (CharSet × Text)
  | 0, opened, _ => opened.unclosed
  | bound + 1, opened, text =>
    match flags.skip text with
    | [] => opened.unclosed
    | ']' :: rest => do return (← opened.close flags rest, rest)
    | '&' :: '&' :: rest => setItems flags bound (opened.operate flags .intersection) rest
    | '-' :: '-' :: rest => setItems flags bound (opened.operate flags .difference) rest
    | '~' :: '~' :: rest => setItems flags bound (opened.operate flags .symmetricDifference) rest
    | '[' :: rest =>
      match asciiSet? rest with
      | some (set, negated, behind) => do
        let set := flags.cased set
        let set ← if negated then flags.complement set ('[' :: rest) behind else pure set
        setItems flags bound (opened.add set) behind
      | none => do
        let (inner, rest) ← openSet flags ('[' :: rest)
        let (set, rest) ← setItems flags bound inner rest
        setItems flags bound (opened.add set) rest
    | text => do
      let (set, rest) ← range flags opened text
      setItems flags bound (opened.add set) rest

/-- Reads a set in brackets. -/
def bracketed (flags : Flags) (text : Text) : Except PatternError (CharSet × Text) := do
  let (opened, rest) ← openSet flags text
  setItems flags (rest.length + 1) opened rest

end QuestRecords.Pattern
