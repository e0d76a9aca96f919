import QuestRecords.Text.Basic

/-! Blank characters. Scanning over program text skips `isGap`, the five blanks of ASCII source
text; trimming and the patterns use `isBlank`, the blanks of every script. The vertical tab is
the one ASCII character that is blank and no gap. -/
namespace QuestRecords.Text

/-- Space, tab, line feed, form feed and carriage return. -/
def isGap (c : Char) : Bool :=
  c == ' ' || c == '\t' || c == '\n' || c == '\x0c' || c == '\r'

/-- The characters with the Unicode property `White_Space`. -/
def isBlank (c : Char) : Bool :=
  let code := c.toNat
  (0x09 ≤ code && code ≤ 0x0D) || code == 0x20 || code == 0x85 || code == 0xA0 ||
    code == 0x1680 || (0x2000 ≤ code && code ≤ 0x200A) || code == 0x2028 || code == 0x2029 ||
    code == 0x202F || code == 0x205F || code == 0x3000

theorem isBlank_of_isGap (c : Char) (gap : isGap c = true) : isBlank c = true := by
  simp only [isGap, Bool.or_eq_true, beq_iff_eq] at gap
  rcases gap with (((rfl | rfl) | rfl) | rfl) | rfl <;> decide

def skipGaps (text : Text) : Text := text.dropWhile isGap

/-- One gap at least, and all that follow it. -/
def skipGaps1? : Text → Option Text
  | [] => none
  | c :: rest => if isGap c then some (skipGaps rest) else none

def skipBlanks (text : Text) : Text := text.dropWhile isBlank

/-- One blank at least, and all that follow it. -/
def skipBlanks1? : Text → Option Text
  | [] => none
  | c :: rest => if isBlank c then some (skipBlanks rest) else none

def trimStart (text : Text) : Text := skipBlanks text

def trimEnd (text : Text) : Text := (text.reverse.dropWhile isBlank).reverse

def trim (text : Text) : Text := trimEnd (trimStart text)

end QuestRecords.Text
