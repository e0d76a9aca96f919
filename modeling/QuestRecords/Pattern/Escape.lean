import QuestRecords.Pattern.Basic
import QuestRecords.Pattern.Error

/-! Reading the smallest parts of a pattern: characters, escapes, and what they stand for under
the flags that are set. -/
namespace QuestRecords.Pattern

inductive Flag where
  | anyCase
  /-- Each line has a start and an end. -/
  | lines
  /-- The dot stands for line breaks, too. -/
  | dotAll
  /-- Repetitions prefer to be short. Whether there is a match does not hang on it. -/
  | short
  /-- Classes are those of all scripts, and not of ASCII alone. -/
  | scripts
  /-- A carriage return ends a line, too. -/
  | returns
  /-- Blanks and comments in the pattern do not count. -/
  | spaced
  deriving DecidableEq

/-- The flags that are set. -/
abbrev Flags := List Flag

/-- A fault in the part between two places. -/
def fail (fault : PatternFault) (start stop : Text) : Except PatternError α :=
  .error { fault, part := .between start stop }

/-- Skips blanks and comments; a comment ends with its line. -/
def skipSpaced (inComment : Bool) : Text → Text
  | [] => []
  | c :: rest =>
    if inComment then skipSpaced (c ≠ '\n') rest
    else if c = '#' then skipSpaced true rest
    else if Text.isBlank c then skipSpaced false rest
    else c :: rest

namespace Flags

def has (flags : Flags) (flag : Flag) : Bool := flags.contains flag

/-- Skips what does not count. -/
def skip (flags : Flags) (text : Text) : Text :=
  if flags.has .spaced then skipSpaced false text else text

/-- A set under the flags. -/
def cased (flags : Flags) (set : CharSet) : CharSet :=
  if flags.has .anyCase then if flags.has .scripts then set.anyCase else set.anyAsciiCase else set

/-- Everything but a set; it is refused where it would split characters into bytes. -/
def complement (flags : Flags) (set : CharSet) (start stop : Text) : Except PatternError CharSet :=
  if flags.has .scripts then .ok set.complement else fail .notOfCharacters start stop

def character (flags : Flags) (c : Char) : Pattern := one (flags.cased (.single c))

/-- The pattern of a dot. -/
def dot (flags : Flags) (start stop : Text) : Except PatternError Pattern :=
  let breaks :=
    if flags.has .dotAll then .nothing
    else if flags.has .returns then (CharSet.single '\n').union (.single '\r')
    else .single '\n'
  one <$> flags.complement breaks start stop

def start (flags : Flags) : Pattern :=
  atEdge (if flags.has .lines then .lineStart (flags.has .returns) else .textStart)

def stop (flags : Flags) : Pattern :=
  atEdge (if flags.has .lines then .lineEnd (flags.has .returns) else .textEnd)

/-- The words that edges are measured by are those of ASCII. -/
def ascii (flags : Flags) : Bool := !flags.has .scripts

end Flags

/-- What an escape stands for. -/
inductive Primitive where
  | character (c : Char)
  | oneOf (set : CharSet)
  | place (edge : Edge)

/-- The value of a hexadecimal digit. -/
def hexValue? (c : Char) : Option Nat :=
  if c.isDigit then some (c.toNat - '0'.toNat)
  else if 'a' ≤ c ∧ c ≤ 'f' then some (c.toNat - 'a'.toNat + 10)
  else if 'A' ≤ c ∧ c ≤ 'F' then some (c.toNat - 'A'.toNat + 10)
  else none

/-- The character of a code point, which was written between two places. -/
def characterOf (code : Nat) (start stop : Text) : Except PatternError Char :=
  if code.isValidChar then .ok (Char.ofNat code) else fail .hexValue start stop

/-- Reads a number of hexadecimal digits. -/
def hexDigits : Nat → Nat → Text → Except PatternError (Nat × Text)
  | 0, value, text => .ok (value, text)
  | _ + 1, _, [] => fail .escapeUnclosed [] []
  | digits + 1, value, c :: rest =>
    match hexValue? c with
    | some digit => hexDigits digits (16 * value + digit) rest
    | none => fail .hexDigit (c :: rest) rest

/-- Reads hexadecimal digits up to a closing brace; without digits there is no value. The brace
that opened them stands at `start`. -/
def hexBraced (start : Text) (value? : Option Nat) :
    Text → Except PatternError (Option Nat × Text)
  | [] => fail .escapeUnclosed start []
  | '\x7d' :: rest => .ok (value?, rest)
  | c :: rest =>
    match hexValue? c with
    | some digit => hexBraced start (some (16 * value?.getD 0 + digit)) rest
    | none => fail .hexDigit (c :: rest) rest

/-- Reads a code point of some digits, or one in braces. -/
def hex (digits : Nat) (text : Text) : Except PatternError (Char × Text) := do
  match text with
  | [] => fail .escapeUnclosed [] []
  | '\x7b' :: inner =>
    let (value?, rest) ← hexBraced text none inner
    match value? with
    | some value => return (← characterOf value inner ('\x7d' :: rest), rest)
    | none => fail .hexEmpty text rest
  | _ =>
    let (value, rest) ← hexDigits digits 0 text
    return (← characterOf value text rest, rest)

/-- The name of a property without case and separators. -/
def plainName (name : Text) : String :=
  String.ofList ((name.filter fun c => !Text.isBlank c && c != '_' && c != '-').map Char.toLower)

/-- The set that a name of a property stands for. -/
def namedSet? (name : String) : Option CharSet :=
  if name = "any" then some .everything
  else if name = "ascii" then some .ascii
  else (CharProperty.ofName? name).map .having

/-- Reads the name of a property: one letter, or a name in braces. -/
def propertyName : Text → Except PatternError (Text × Text)
  | [] => fail .escapeUnclosed [] []
  | '\x7b' :: inner =>
    match inner.dropWhile (· ≠ '\x7d') with
    | [] => fail .escapeUnclosed [] []
    | _ :: rest => .ok (inner.takeWhile (· ≠ '\x7d'), rest)
  | '\\' :: rest => fail .propertyInvalid ('\\' :: rest) rest
  | c :: rest => .ok ([c], rest)

/-- Reads a property, or what does not have it. The escape starts at `start`. -/
def property (flags : Flags) (negated : Bool) (start text : Text) :
    Except PatternError (CharSet × Text) := do
  let (name, rest) ← propertyName text
  if flags.ascii then fail .propertyForbidden start rest
  match namedSet? (plainName name) with
  | some set =>
    let set := flags.cased set
    return (if negated then set.complement else set, rest)
  | none => fail .propertyUnknown start rest

/-- The class of a letter: digits, blanks or word characters. -/
def classOf? (flags : Flags) (letter : Char) : Option CharSet :=
  let choose (all : CharProperty) (name : String) : Option CharSet :=
    if flags.ascii then CharSet.ofAsciiName? name else some (.having all)
  if letter = 'd' then choose .digit "digit"
  else if letter = 's' then choose .blank "space"
  else if letter = 'w' then choose .word "word"
  else none

/-- Characters that mean something in a pattern, if only in some places. -/
def isMeta (c : Char) : Bool := "\\.+*?()|[]\x7b\x7d^$#&-~".toList.contains c

/-- What may stand behind a backslash for itself. -/
def isEscapable (c : Char) : Bool :=
  isMeta c || c.toNat < 0x80 && !c.isAlphanum && c != '<' && c != '>'

/-- The character that a letter behind a backslash stands for. -/
def controlOf? : Char → Option Char
  | 'a' => some '\x07'
  | 'f' => some '\x0c'
  | 't' => some '\t'
  | 'n' => some '\n'
  | 'r' => some '\r'
  | 'v' => some '\x0b'
  | _ => none

/-- The edge that a character behind a backslash stands for. -/
def edgeOf? (flags : Flags) : Char → Option Edge
  | 'A' => some .textStart
  | 'z' => some .textEnd
  | 'B' => some (.noWordBoundary flags.ascii)
  | '<' => some (.wordStart flags.ascii)
  | '>' => some (.wordEnd flags.ascii)
  | _ => none

/-- Special edges of words, by name. -/
def wordEdgeOf? (flags : Flags) : String → Option Edge
  | "start" => some (.wordStart flags.ascii)
  | "end" => some (.wordEnd flags.ascii)
  | "start-half" => some (.wordStartHalf flags.ascii)
  | "end-half" => some (.wordEndHalf flags.ascii)
  | _ => none

/-- Reads what may name a special edge of words in braces. What is in the braces may also be a
count, which is left to be read. The escape starts at `start`. -/
def wordEdge (flags : Flags) (start : Text) : Text → Except PatternError (Edge × Text)
  | '\x7b' :: inner =>
    let isNameChar (c : Char) : Bool := c.isAlpha || c == '-'
    let name := inner.takeWhile isNameChar
    match inner, inner.dropWhile isNameChar with
    | [], _ => fail .countOrBoundaryUnclosed start []
    | first :: _, '\x7d' :: rest =>
      if !isNameChar first then .ok (.wordBoundary flags.ascii, '\x7b' :: inner)
      else match wordEdgeOf? flags (String.ofList name) with
        | some edge => .ok (edge, rest)
        | none => fail .boundaryUnknown inner ('\x7d' :: rest)
    | first :: _, rest =>
      if !isNameChar first then .ok (.wordBoundary flags.ascii, '\x7b' :: inner)
      else fail .boundaryUnclosed ('\x7b' :: inner) rest
  | rest => .ok (.wordBoundary flags.ascii, rest)

/-- How many hexadecimal digits follow a letter. -/
def hexWidth? : Char → Option Nat
  | 'x' => some 2
  | 'u' => some 4
  | 'U' => some 8
  | _ => none

/-- What a character behind a backslash stands for alone. The two stand between `start` and
`stop`. -/
def primitive (flags : Flags) (start stop : Text) (c : Char) : Except PatternError Primitive :=
  if isEscapable c then .ok (.character c)
  else match controlOf? c, edgeOf? flags c, classOf? flags c, classOf? flags c.toLower with
    | some control, _, _, _ => .ok (.character control)
    | _, some edge, _, _ => .ok (.place edge)
    | _, _, some set, _ => .ok (.oneOf set)
    | _, _, _, some set => .oneOf <$> flags.complement set start stop
    | _, _, _, _ => fail .escapeUnknown start stop

/-- Reads an escape, whose backslash stands at `start`. -/
def escape (flags : Flags) (start : Text) : Text → Except PatternError (Primitive × Text)
  | [] => fail .escapeUnclosed start []
  | c :: rest => do
    if c.isDigit then fail .backreference start rest
    match hexWidth? c with
    | some digits =>
      let (value, rest) ← hex digits rest
      return (.character value, rest)
    | none =>
      if c = 'p' ∨ c = 'P' then
        let (set, rest) ← property flags (c = 'P') start rest
        return (.oneOf set, rest)
      else if c = 'b' then
        let (edge, rest) ← wordEdge flags start rest
        return (.place edge, rest)
      else return (← primitive flags start rest c, rest)

/-- The pattern of what an escape stands for. -/
def Primitive.pattern (flags : Flags) : Primitive → Pattern
  | character c => flags.character c
  | oneOf set => one set
  | place edge => atEdge edge

end QuestRecords.Pattern
