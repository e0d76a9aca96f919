import QuestRecords.Diagnostics.Logged
import QuestRecords.Quest.Reward
import QuestRecords.Source.Literal
import QuestRecords.Source.Reader
import QuestRecords.Text.LetterCase

/-! Lamp rewards. A source gives at most one lamp: an explicit lamp reward, or else the first
item or unlock whose title speaks of a lamp. Skills, value and quantity are each read by the first
of two rules that applies, and have a default. -/
namespace QuestRecords.Lamp

open Source Source.Reader Text

/-- How the call of a lamp was recognised. -/
inductive Match where
  | explicit
  | byTitle
  deriving DecidableEq

def Match.label : Match → String
  | explicit => "explicit lamp reward"
  | byTitle => "reward named as a lamp"

/-- Whether a text contains another. -/
def contains (part text : Text) : Bool :=
  (after? part text).isSome ||
    match text with
    | [] => false
    | _ :: rest => contains part rest

/-- Whether the first argument of a call is a literal that speaks of a lamp. -/
def isNamedLamp (call : Call) : Bool :=
  match call.firstArgument?.bind Literal.ofArgument? with
  | some title => contains "lamp".toList (lower title)
  | none => false

/-- The call of an item or an unlock at a place, if its title speaks of a lamp. -/
def namedLampAt? (site : Site) : Option Call :=
  ((Call.at? "ItemReward".toList site).orElse fun _ => Call.at? "UnlockReward".toList site).filter
    isNamedLamp

/-- The call that gives the lamp, and how it was recognised. -/
def call? (source : Text) : Option (Match × Call) :=
  match findFirst? (Call.at? "LampReward".toList) source with
  | some call => some (.explicit, call)
  | none => (findFirst? namedLampAt? source).map (.byTitle, ·)

/-- The first argument that is a literal. -/
def title? (call : Call) : Option Text := call.arguments.findSome? Literal.ofArgument?

/-- A skill constant at a place, and what follows it. -/
def skillConstant? (site : Site) : Option (Text × Text) := do
  if !startsWord site then none
  name? (skipBlanks (← spacedChar? '.' (← word? "Skill" site.ahead)))

/-- The skill constants in the text of a call, separated by commas. -/
def skillsOfConstants? (call : Call) : Option Text :=
  match findDisjoint skillConstant? call.text with
  | [] => none
  | names => some ([',', ' '].intercalate names)

/-- A text in parentheses that itself holds none, one character at least, at a place. -/
def parenthesis? (site : Site) : Option Text := do
  let rest ← char? '(' site.ahead
  let isPlain := fun c => c != '(' && c != ')'
  if (rest.takeWhile isPlain).isEmpty then none
  let _ ← char? ')' (rest.dropWhile isPlain)
  return rest.takeWhile isPlain

/-- The first parenthesis in the title, unless it is blank. -/
def skillsOfTitle? (call : Call) : Option Text :=
  ((title? call).bind (findFirst? parenthesis?)).bind fun inner =>
    if trim inner = [] then none else some (trim inner)

/-- Reads a word of ASCII letters in either case. -/
def wordOfAnyCase? : Text → Text → Option Text
  | [], text => some text
  | _ :: _, [] => none
  | expected :: word, c :: text =>
    if c.toLower = expected then wordOfAnyCase? word text else none

/-- An amount of experience at a place: digits and commas, then `xp` or `experience` as the end
of a word. -/
def experienceAmount? (site : Site) : Option Text := do
  if !site.ahead.head?.any isDigit then none
  let isAmount := fun c => isDigit c || c == ','
  let unit := skipBlanks (site.ahead.dropWhile isAmount)
  let rest ← (wordOfAnyCase? "xp".toList unit).orElse fun _ =>
    wordOfAnyCase? "experience".toList unit
  if !isWordEdge rest.head? then none
  return site.ahead.takeWhile isAmount

/-- Digits as an amount, if they are ASCII digits and it fits. -/
def amountOfDigits? (digits : Text) : Option Int64 :=
  (natural? digits).bind fun value => Amount.long? value

/-- The first amount of experience in the text of a call. -/
def valueOfText? (call : Call) : Option Int64 :=
  (findFirst? experienceAmount? call.text).bind fun amount =>
    amountOfDigits? (amount.filter (· != ','))

/-- The first argument that is a whole number. -/
def valueOfArgument? (call : Call) : Option Int64 := call.arguments.findSome? integer?

/-- A letter between `a` and `z` in either case; the long s and the kelvin sign are forms of two
of them. -/
def isLatinLetter (c : Char) : Bool := c.isAlpha || c == '\u017f' || c == '\u212a'

/-- A count at a place: digits, a multiplication sign written `x`, a blank and a letter. -/
def count? (site : Site) : Option Text := do
  if !site.ahead.head?.any isDigit then none
  let rest ← wordOfAnyCase? ['x'] (skipBlanks (site.ahead.dropWhile isDigit))
  let unit ← skipBlanks1? rest
  if !unit.head?.any isLatinLetter then none
  return site.ahead.takeWhile isDigit

/-- The first count in the title. -/
def quantityOfTitle? (call : Call) : Option Int64 :=
  ((title? call).bind (findFirst? count?)).bind amountOfDigits?

/-- The last argument, if it is a whole number and an argument before it is one too. -/
def quantityOfArgument? (call : Call) : Option Int64 := do
  let quantity ← integer? (← call.arguments.getLast?)
  if call.arguments.dropLast.any fun argument => (integer? argument).isSome then some quantity
  else none

/-- The lamp that a call gives. -/
def ofCall (call : Call) : LampReward :=
  { skills := match (skillsOfConstants? call).orElse fun _ => skillsOfTitle? call with
      | some skills => String.ofList skills
      | none => "Any"
    value := ((valueOfText? call).orElse fun _ => valueOfArgument? call).getD 0
    quantity := ((quantityOfTitle? call).orElse fun _ => quantityOfArgument? call).getD 1 }

/-- The lamp that a source gives. -/
def reward (source : Text) : Logged (Option LampReward) := do
  match call? source with
  | none => return none
  | some (how, call) =>
    Logged.raise (.debug "Lamp reward matched"
      [("matcher", how.label), ("offset", toString call.start)])
    return some (ofCall call)

end QuestRecords.Lamp
