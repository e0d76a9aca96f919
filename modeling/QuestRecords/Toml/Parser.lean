import QuestRecords.Toml.Quoted
import QuestRecords.Toml.Scalar
import QuestRecords.Toml.Table

/-! Reading TOML documents. A document is a sequence of lines: assignments, headers and blank
lines, any of them with a comment at the end. -/
namespace QuestRecords.Toml

open Quoted (isSpace isPrintable)

def skipSpaces (text : Text) : Text := text.dropWhile isSpace

/-- The text behind a comment that stands here, if any. -/
def skipComment : Text → Text
  | '#' :: rest => rest.dropWhile isPrintable
  | text => text

/-- Reads what may follow at the end of a line, and its line break. -/
def lineEnd? (text : Text) : Option Text :=
  match skipComment (skipSpaces text) with
  | [] => some []
  | '\n' :: rest => some rest
  | '\r' :: '\n' :: rest => some rest
  | _ => none

/-- Skips blanks, line breaks and comments; the number bounds how many lines. -/
def skipLines : Nat → Text → Text
  | 0, text => text
  | lines + 1, text =>
    match skipComment (skipSpaces text) with
    | '\n' :: rest => skipLines lines rest
    | '\r' :: '\n' :: rest => skipLines lines rest
    | rest => rest

/-- How many arrays and tables in braces may stand in each other, and how many parts a key may
have. -/
def depthLimit : Nat := 79

def isBareKey (c : Char) : Bool := c.isAlphanum || c == '-' || c == '_'

/-- Reads one part of a key. -/
def simpleKey? (text : Text) : Option (String × Text) :=
  match Quoted.line? text with
  | some (key, rest) => some (String.ofList key, rest)
  | none =>
    if (text.takeWhile isBareKey).isEmpty then none
    else some (String.ofList (text.takeWhile isBareKey), text.dropWhile isBareKey)

/-- Reads a key, the parts of which stand between dots; the number bounds how many. -/
def key? : Nat → Text → Option (List String × Text)
  | 0, _ => none
  | parts + 1, text => do
    let (first, rest) ← simpleKey? (skipSpaces text)
    match skipSpaces rest with
    | '.' :: rest =>
      let (others, rest) ← key? parts rest
      return (first :: others, rest)
    | rest => return ([first], rest)

mutual

/-- Reads a value. The first number bounds how many values it consists of; `depth` counts the
arrays and tables in braces that it stands in. -/
def value? : Nat → Nat → Text → Option (Value × Text)
  | 0, _, _ => none
  | bound + 1, depth, text =>
    match text with
    | '[' :: rest => do
      if depth = depthLimit then none
      let (items, rest) ← items? bound (depth + 1) rest
      return (.array items, rest)
    | '\x7b' :: rest => do
      if depth = depthLimit then none
      match skipSpaces rest with
      | '\x7d' :: rest => return (.table .inline [], rest)
      | rest =>
        let (assignments, rest) ← members? bound (depth + 1) rest
        return (.table .inline (← assignAll? [] assignments), rest)
    | '"' :: _ => (Quoted.read? text).map fun (value, rest) => (.string value, rest)
    | '\x27' :: _ => (Quoted.read? text).map fun (value, rest) => (.string value, rest)
    | _ => Scalar.read? text

/-- Reads the items of an array and its closing bracket. -/
def items? : Nat → Nat → Text → Option (List Value × Text)
  | 0, _, _ => none
  | bound + 1, depth, text =>
    match skipLines text.length text with
    | ']' :: rest => some ([], rest)
    | text => do
      let (item, rest) ← value? bound depth text
      match skipLines rest.length rest with
      | ',' :: rest =>
        let (items, rest) ← items? bound depth rest
        return (item :: items, rest)
      | ']' :: rest => return ([item], rest)
      | _ => none

/-- Reads the assignments in braces and the closing one. -/
def members? : Nat → Nat → Text → Option (List (List String × Value) × Text)
  | 0, _, _ => none
  | bound + 1, depth, text => do
    let (key, rest) ← key? depthLimit text
    match rest with
    | '=' :: rest =>
      let (value, rest) ← value? bound depth (skipSpaces rest)
      match skipSpaces rest with
      | ',' :: rest =>
        let (members, rest) ← members? bound depth rest
        return ((key, value) :: members, rest)
      | '\x7d' :: rest => return ([(key, value)], rest)
      | _ => none
    | _ => none

end

/-- What a line says. -/
inductive Line where
  | blank
  | assignment (key : List String) (value : Value)
  | header (repeated : Bool) (key : List String)

/-- Reads a header behind its opening bracket. -/
def header? (text : Text) : Option (Line × Text) :=
  match text with
  | '[' :: rest => do
    let (key, rest) ← key? depthLimit rest
    match rest with
    | ']' :: ']' :: rest => return (.header true key, rest)
    | _ => none
  | rest => do
    let (key, rest) ← key? depthLimit rest
    match rest with
    | ']' :: rest => return (.header false key, rest)
    | _ => none

/-- Reads an assignment. -/
def assignment? (text : Text) : Option (Line × Text) := do
  let (key, rest) ← key? depthLimit text
  match rest with
  | '=' :: rest =>
    let rest := skipSpaces rest
    let (value, rest) ← value? (2 * rest.length + 2) 0 rest
    return (.assignment key value, rest)
  | _ => none

/-- Reads a line up to its end. -/
def line? (text : Text) : Option (Line × Text) := do
  let text := skipSpaces text
  let (line, rest) ← match text with
    | [] => some (Line.blank, [])
    | '[' :: rest => header? rest
    | c :: _ =>
      if c == '#' || c == '\n' || c == '\r' then some (Line.blank, text) else assignment? text
  return (line, ← lineEnd? rest)

/-- Reads lines; the number bounds how many. -/
def lines? : Nat → Text → Option (List Line)
  | 0, _ => none
  | bound + 1, text => do
    if text.isEmpty then return []
    let (line, rest) ← line? text
    return line :: (← lines? bound rest)

/-- The assignments up to the next header. -/
def assignmentsOf : List Line → List (List String × Value)
  | .assignment key value :: rest => (key, value) :: assignmentsOf rest
  | .blank :: rest => assignmentsOf rest
  | _ => []

/-- Defines the tables of all headers, each with the assignments behind it. -/
def defineAll? (entries : Entries) : List Line → Option Entries
  | [] => some entries
  | .header repeated key :: rest =>
    (define? repeated (assignAll? · (assignmentsOf rest)) entries key).bind (defineAll? · rest)
  | _ :: rest => defineAll? entries rest

/-- A byte order mark at the beginning says nothing. -/
def skipMark : Text → Text
  | '\ufeff' :: rest => rest
  | text => text

/-- Reads a document: the entries of its root table. -/
def parse? (text : Text) : Option Entries := do
  let text := skipMark text
  let lines ← lines? (text.length + 1) text
  defineAll? (← assignAll? [] (assignmentsOf lines)) lines

end QuestRecords.Toml
