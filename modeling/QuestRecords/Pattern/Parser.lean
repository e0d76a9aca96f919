import QuestRecords.Pattern.Bracketed

/-! Reading patterns. Groups in parentheses are read one inside the other; flags hold from where
they are set to the end of the group that they are set in. -/
namespace QuestRecords.Pattern

/-- A negation sign, or a flag. -/
abbrev FlagItem := Option Flag

def flagOf? : Char → Option Flag
  | 'i' => some .anyCase
  | 'm' => some .lines
  | 's' => some .dotAll
  | 'U' => some .short
  | 'u' => some .scripts
  | 'R' => some .returns
  | 'x' => some .spaced
  | _ => none

/-- Adds an item that stands at the beginning of a text to those seen, unless it is among them. -/
def addFlagItem (seen : List (FlagItem × PatternPart)) (item : FlagItem) (text : Text) :
    Except PatternError (List (FlagItem × PatternPart)) :=
  let part := PatternPart.between text (text.drop 1)
  match seen.find? (·.1 = item) with
  | some (_, first) =>
    .error ⟨if item.isSome then .flagRepeated else .negationRepeated, some first, part⟩
  | none => .ok ((item, part) :: seen)

/-- Reads flags up to a colon or a closing parenthesis, the last of them first. -/
def flagItems (seen : List (FlagItem × PatternPart)) : Text →
    Except PatternError (List (FlagItem × PatternPart) × Text)
  | [] => fail .flagsUnclosed [] []
  | c :: rest =>
    if c = ':' ∨ c = ')' then
      match seen with
      | (none, part) :: _ => .error { fault := .negationDangling, part }
      | _ => .ok (seen, c :: rest)
    else if c = '-' then do flagItems (← addFlagItem seen none (c :: rest)) rest
    else match flagOf? c with
      | some flag => do flagItems (← addFlagItem seen (some flag) (c :: rest)) rest
      | none => fail .flagUnknown (c :: rest) rest

/-- Flags before the negation sign are set, and those behind it are taken back. -/
def Flags.change (flags : Flags) (items : List FlagItem) : Flags :=
  let taken := (items.dropWhile Option.isSome).filterMap id
  (items.takeWhile Option.isSome).filterMap id ++ flags.filter (!taken.contains ·)

/-- A name of a group, and where it stands. -/
abbrev GroupName := Text × PatternPart

/-- Whether a character may stand in the name of a group. -/
def isNameChar (first : Bool) (c : Char) : Bool :=
  c == '_' || if first then Text.isAlphabetic c
    else c == '.' || c == '[' || c == ']' || Text.isAlphanumeric c

/-- Reads the name of a group and the angle bracket behind it. -/
def groupName (names : List GroupName) (text : Text) : Except PatternError (GroupName × Text) :=
  let name := (text.take 1).takeWhile (isNameChar true) ++
    if text.head?.any (isNameChar true) then (text.drop 1).takeWhile (isNameChar false) else []
  let stop := text.drop name.length
  let part := PatternPart.between text stop
  match stop with
  | [] => fail .nameUnclosed [] []
  | '>' :: rest =>
    if name.isEmpty then .error { fault := .nameEmpty, part }
    else match names.find? (·.1 = name) with
      | some (_, first) => .error ⟨.nameRepeated, some first, part⟩
      | none => .ok ((name, part), rest)
  | c :: rest => fail .nameInvalid (c :: rest) rest

/-- What an opening parenthesis begins: flags for the group that it stands in, or a group. -/
inductive Opening where
  | flags (flags : Flags)
  | group (flags : Flags) (name : Option GroupName)

/-- What may not stand behind an opening parenthesis. -/
def lookArounds : List Text := ["?=".toList, "?!".toList, "?<=".toList, "?<!".toList]

/-- Reads flags behind a question mark and what ends them. The parenthesis opens at `start`, and
the question mark stands at `mark`. -/
def openFlags (flags : Flags) (start mark text : Text) :
    Except PatternError (Opening × Text) := do
  if text.isEmpty then fail .groupUnclosed start (start.drop 1)
  let (items, rest) ← flagItems [] text
  let changed := flags.change (items.reverse.map (·.1))
  match rest with
  | ')' :: rest =>
    if items.isEmpty then fail .nothingToRepeat mark mark
    return (.flags changed, rest)
  | rest => return (.group changed none, rest.drop 1)

/-- Reads what an opening parenthesis begins. -/
def opening (flags : Flags) (names : List GroupName) (start : Text) :
    Except PatternError (Opening × Text) := do
  let text := flags.skip (start.drop 1)
  match lookArounds.findSome? (Text.after? · text) with
  | some rest => fail .lookAround start rest
  | none =>
    match (Text.after? "?P<".toList text).or (Text.after? "?<".toList text) with
    | some rest =>
      let (name, rest) ← groupName names rest
      return (.group flags (some name), rest)
    | none =>
      match text with
      | '?' :: rest => openFlags flags start text rest
      | text => return (.group flags none, text)

/-- The largest number of repetitions that can be written. -/
def countLimit : Nat := 4294967295

/-- Reads the digits of a number, between which there may be what does not count. -/
def countDigits (flags : Flags) : Nat → Text → Text × Text
  | 0, text => ([], text)
  | bound + 1, text =>
    match text with
    | c :: rest =>
      if c.isDigit then
        let (digits, rest) := countDigits flags bound (flags.skip rest)
        (c :: digits, rest)
      else ([], text)
    | [] => ([], [])

/-- Reads a number between blanks, which may be missing or too large. -/
def count (flags : Flags) (text : Text) : Except PatternError Nat × Text :=
  let text := Text.skipBlanks text
  let (digits, rest) := countDigits flags text.length text
  let value := digits.foldl (fun value c => 10 * value + (c.toNat - '0'.toNat)) 0
  let read := if digits.isEmpty then fail .countEmpty text rest
    else if countLimit < value then fail .countTooLarge text rest
    else .ok value
  (read, flags.skip (Text.skipBlanks rest))

/-- Reads the bounds of a repetition up to the closing brace. The opening one stands at `start`. -/
def bounds (flags : Flags) (start : Text) :
    Except PatternError ((Nat × Option Nat) × Text) := do
  let text := flags.skip (start.drop 1)
  if text.isEmpty then fail .countUnclosed start []
  let (least, text) := count flags text
  match text with
  | [] => fail .countUnclosed start []
  | ',' :: rest =>
    match flags.skip rest with
    | [] => fail .countUnclosed start []
    | '\x7d' :: rest => return ((← least, none), '\x7d' :: rest)
    | rest =>
      let least ← least
      let (most, rest) := count flags rest
      return ((least, some (← most)), rest)
  | rest =>
    let times ← least
    return ((times, some times), rest)

/-- Skips a question mark: the repetition before it prefers to be short. -/
def skipShort : Text → Text
  | '?' :: rest => rest
  | text => text

/-- Reads how often what stands before is repeated, in braces. -/
def counted (flags : Flags) (start : Text) :
    Except PatternError ((Nat × Option Nat) × Text) := do
  let (bounds, text) ← bounds flags start
  match text with
  | '\x7d' :: rest =>
    let rest := skipShort (flags.skip rest)
    if bounds.2.any (· < bounds.1) then fail .countOrder start rest
    return (bounds, rest)
  | rest => fail .countUnclosed start rest

/-- Reads how often what stands before is repeated, if that is said here. -/
def repetition? (flags : Flags) (text : Text) :
    Option (Except PatternError ((Nat × Option Nat) × Text)) :=
  match text with
  | '?' :: rest => some (.ok ((0, some 1), skipShort rest))
  | '*' :: rest => some (.ok ((0, none), skipShort rest))
  | '+' :: rest => some (.ok ((1, none), skipShort rest))
  | '\x7b' :: _ => some (counted flags text)
  | _ => none

/-- A group, as far as it was read: the flags that hold, the parenthesis that opened it, the
branches before the last bar, and the last branch from its end. Where flags are set there is an
item that cannot be repeated. -/
structure OpenGroup where
  flags : Flags
  start : Option Text := none
  branches : List Pattern := []
  items : List (Option Pattern) := []

namespace OpenGroup

/-- The items of the last branch, one behind the other. -/
def branch (group : OpenGroup) : Pattern :=
  (group.items.reverse.filterMap id).foldr followedBy empty

/-- Begins another branch. -/
def divide (group : OpenGroup) : OpenGroup :=
  { group with branches := group.branch :: group.branches, items := [] }

/-- The pattern of the group. -/
def close (group : OpenGroup) : Pattern :=
  group.branches.foldl (fun later earlier => either earlier later) group.branch

def add (group : OpenGroup) (pattern : Pattern) : OpenGroup :=
  { group with items := some pattern :: group.items }

/-- Sets flags for the rest of the group. -/
def setFlags (group : OpenGroup) (flags : Flags) : OpenGroup :=
  { group with flags, items := none :: group.items }

/-- Repeats the last item. What says so stands at `text`. -/
def repeatLast (group : OpenGroup) (text : Text)
    (read : Except PatternError ((Nat × Option Nat) × Text)) :
    Except PatternError (OpenGroup × Text) :=
  match group.items with
  | some last :: items => do
    let ((least, most), rest) ← read
    return ({ group with items := some (repeated last least most) :: items }, rest)
  | _ => fail .nothingToRepeat text text

end OpenGroup

/-- Reads a character, a set, an edge or an escape. -/
def single (flags : Flags) (text : Text) : Except PatternError (Pattern × Text) :=
  match text with
  | [] => .ok (empty, [])
  | '[' :: _ => do
    let (set, rest) ← bracketed flags text
    return (one set, rest)
  | '.' :: rest => do return (← flags.dot text rest, rest)
  | '^' :: rest => .ok (flags.start, rest)
  | '$' :: rest => .ok (flags.stop, rest)
  | '\\' :: rest => do
    let (primitive, rest) ← escape flags text rest
    return (primitive.pattern flags, rest)
  | c :: rest => .ok (flags.character c, rest)

/-- Reads the rest of a group up to its closing parenthesis, or up to the end of the pattern if no
parenthesis opened it; the number bounds how many steps. Groups are told apart by their names. -/
def groupRest : Nat → List GroupName → OpenGroup → Text →
    Except PatternError ((Pattern × List GroupName) × Text)
  | 0, names, group, text => .ok ((group.close, names), text)
  | bound + 1, names, group, text =>
    match group.flags.skip text, group.start with
    | [], none => .ok ((group.close, names), [])
    | [], some start => fail .groupUnclosed start (start.drop 1)
    | ')' :: rest, none => fail .groupUnopened (')' :: rest) rest
    | ')' :: rest, some _ => .ok ((group.close, names), rest)
    | '|' :: rest, _ => groupRest bound names group.divide rest
    | '(' :: rest, _ => do
      let start := '(' :: rest
      match ← opening group.flags names start with
      | (.flags flags, rest) => groupRest bound names (group.setFlags flags) rest
      | (.group flags name, rest) =>
        let ((inner, names), rest) ←
          groupRest bound (name.toList ++ names) { flags, start := some start } rest
        groupRest bound names (group.add inner) rest
    | text, _ =>
      match repetition? group.flags text with
      | some read => do
        let (group, rest) ← group.repeatLast text read
        groupRest bound names group rest
      | none => do
        let (pattern, rest) ← single group.flags text
        groupRest bound names (group.add pattern) rest

/-- Reads a pattern. At first only the classes of all scripts are set. -/
def ofText (text : Text) : Except PatternError Pattern := do
  let ((pattern, _), _) ← groupRest (text.length + 1) [] { flags := [.scripts] } text
  return pattern

end QuestRecords.Pattern
