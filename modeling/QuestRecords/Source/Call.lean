import QuestRecords.Source.Argument
import QuestRecords.Text.Site

/-! Constructor calls in program text, found by the word `new`, the name of the constructed type
and an opening parenthesis. Calls inside the arguments of other calls are found as well. -/
namespace QuestRecords.Source

open Text

/-- A call: its place in the text it was found in, its arguments, and its own text from the start
to the closing parenthesis. -/
structure Call where
  start : Nat
  stop : Nat
  argsStart : Nat
  args : Text
  text : Text
  deriving DecidableEq

namespace Call

/-- The arguments cut at the separating commas, trimmed. -/
def arguments (call : Call) : List Text := splitArguments call.args

def firstArgument? (call : Call) : Option Text := call.arguments.head?

/-- The call that starts at `site` and whose opening parenthesis is where `paren` begins; `paren`
is a rest of the text ahead of the site. -/
def ofParen? (site : Site) (paren : Text) : Option Call :=
  (parenthesised? paren).map fun (args, _) =>
    let start := site.offset
    let header := upTo site.ahead paren
    let argsStart := start + width header + 1
    { start
      stop := argsStart + width args + 1
      argsStart
      args
      text := header ++ '(' :: (args ++ [')']) }

/-- A character that would make a longer word, or a member access, of what it stands next to. -/
def continuesWord (c : Char) : Bool := c.isAlphanum || c == '_' || c == '$' || c == '.'

/-- Reads `new`, one gap at least, the type name as a whole word, and gaps up to an opening
parenthesis; what is left starts there. -/
def header? (typeName : Text) (site : Site) : Option Text := do
  if site.behind.head?.any continuesWord then none
  let atType ← skipGaps1? (← after? ['n', 'e', 'w'] site.ahead)
  let afterType ← after? typeName atType
  if afterType.head?.any continuesWord then none
  match skipGaps afterType with
  | '(' :: rest => some ('(' :: rest)
  | _ => none

/-- The constructor call of the given type at a place, if it is one and its parenthesis is
closed. -/
def at? (typeName : Text) (site : Site) : Option Call :=
  (header? typeName site).bind (ofParen? site)

end Call

/-- Every constructor call of a type, in the order of the text. -/
def constructorCalls (text typeName : Text) : List Call := findAll (Call.at? typeName) text

/-- The call that starts at one byte offset and opens its arguments at another. -/
def callAt? (text : Text) (start openParen : Nat) : Option Call := do
  let (_, paren) ← text.splitAt? openParen
  let (args, _) ← parenthesised? paren
  let stop := openParen + 1 + width args + 1
  let whole ← text.slice? start stop
  return { start, stop, argsStart := openParen + 1, args, text := whole }

end QuestRecords.Source
