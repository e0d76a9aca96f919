import QuestRecords.Json.Token

/-! Strings of TOML: in double quotes with escapes, in single quotes as they are, and either of
them in three quotes over several lines. -/
namespace QuestRecords.Toml.Quoted

def isSpace (c : Char) : Bool := c == ' ' || c == '\t'

/-- A character that may stand in a comment or a string: no control character but the tab. -/
def isPrintable (c : Char) : Bool := c == '\t' || (0x20 ≤ c.toNat && c.toNat != 0x7F)

/-- What a backslash and one more character stand for. -/
def escaped? (c : Char) : Option Char := if c = '/' then none else Json.Token.escaped? c

/-- The character of a number, unless it is half of a surrogate pair or too large. -/
def charOf? (value : Nat) : Option Char :=
  if value.isValidChar then some (Char.ofNat value) else none

/-- The character whose number is given by hexadecimal digits. -/
def hexChar? (digits : Text) : Option Char := do
  let values ← digits.mapM Json.Token.hexDigit?
  charOf? (values.foldl (fun value digit => 16 * value + digit) 0)

/-- Puts a character in front of what was read. -/
def push (c : Char) (read : Text × Text) : Text × Text := (c :: read.1, read.2)

/-- Reads up to the closing double quote. -/
def basic? : Text → Option (Text × Text)
  | [] => none
  | '"' :: rest => some ([], rest)
  | '\\' :: 'u' :: a :: b :: c :: d :: rest => do
    let escaped ← hexChar? [a, b, c, d]
    return push escaped (← basic? rest)
  | '\\' :: 'U' :: a :: b :: c :: d :: e :: f :: g :: h :: rest => do
    let escaped ← hexChar? [a, b, c, d, e, f, g, h]
    return push escaped (← basic? rest)
  | '\\' :: c :: rest => do
    let escaped ← escaped? c
    return push escaped (← basic? rest)
  | c :: rest => if isPrintable c && c != '\\' then (basic? rest).map (push c) else none

/-- Reads up to the closing single quote. -/
def literal? : Text → Option (Text × Text)
  | [] => none
  | c :: rest =>
    if c = '\x27' then some ([], rest)
    else if isPrintable c then (literal? rest).map (push c)
    else none

/-- Up to two quotes before the closing three belong to the text. -/
def closing (quote : Char) : Text → Text × Text
  | c :: d :: rest =>
    if c = quote ∧ d = quote then ([quote, quote], rest)
    else if c = quote then ([quote], d :: rest)
    else ([], c :: d :: rest)
  | c :: rest => if c = quote then ([quote], rest) else ([], c :: rest)
  | [] => ([], [])

/-- A line break stands here. -/
def startsLineBreak : Text → Bool
  | '\n' :: _ => true
  | '\r' :: '\n' :: _ => true
  | _ => false

/-- A backslash before the text that stands here joins lines. -/
def joinsLines (text : Text) : Bool := startsLineBreak (text.dropWhile isSpace)

/-- Reads up to three double quotes. While `joining`, blanks and line breaks are left out. -/
def basicLines? (joining : Bool) : Text → Option (Text × Text)
  | [] => none
  | '"' :: '"' :: '"' :: rest => some (closing '"' rest)
  | '\r' :: '\n' :: rest =>
    if joining then basicLines? true rest else (basicLines? false rest).map (push '\n')
  | '\\' :: 'u' :: a :: b :: c :: d :: rest => do
    let escaped ← hexChar? [a, b, c, d]
    return push escaped (← basicLines? false rest)
  | '\\' :: 'U' :: a :: b :: c :: d :: e :: f :: g :: h :: rest => do
    let escaped ← hexChar? [a, b, c, d, e, f, g, h]
    return push escaped (← basicLines? false rest)
  | '\\' :: c :: rest =>
    if joinsLines (c :: rest) then basicLines? true (c :: rest)
    else do
      let escaped ← escaped? c
      return push escaped (← basicLines? false rest)
  | c :: rest =>
    if joining && (isSpace c || c == '\n') then basicLines? true rest
    else if c == '\n' || (isPrintable c && c != '\\') then (basicLines? false rest).map (push c)
    else none

/-- Reads up to three single quotes. -/
def literalLines? : Text → Option (Text × Text)
  | [] => none
  | '\x27' :: '\x27' :: '\x27' :: rest => some (closing '\x27' rest)
  | '\r' :: '\n' :: rest => (literalLines? rest).map (push '\n')
  | c :: rest => if c == '\n' || isPrintable c then (literalLines? rest).map (push c) else none

/-- The text behind a line break that stands here, if any. -/
def skipLineBreak : Text → Text
  | '\n' :: rest => rest
  | '\r' :: '\n' :: rest => rest
  | text => text

/-- Reads a string of one line. -/
def line? : Text → Option (Text × Text)
  | '"' :: rest => basic? rest
  | '\x27' :: rest => literal? rest
  | _ => none

/-- Reads a string. -/
def read? : Text → Option (Text × Text)
  | '"' :: '"' :: '"' :: rest => basicLines? false (skipLineBreak rest)
  | '\x27' :: '\x27' :: '\x27' :: rest => literalLines? (skipLineBreak rest)
  | text => line? text

end QuestRecords.Toml.Quoted
