import QuestRecords.Text.Alphanumeric
import QuestRecords.Text.Blank
import QuestRecords.Text.CaseFold
import QuestRecords.Text.Word

/-! Sets of characters, as patterns write them. -/
namespace QuestRecords

/-- Properties by which a set may be named. -/
inductive CharProperty where
  | alphabetic
  | letter
  | mark
  | number
  | digit
  | connector
  | joiner
  | blank
  | word
  deriving DecidableEq

namespace CharProperty

/-- Encircled and squared letters: they are alphabetic, but count as symbols. -/
def letterSymbols : Text.RangeTable :=
  [(0x24B6, 0x24E9), (0x1F130, 0x1F149), (0x1F150, 0x1F169), (0x1F170, 0x1F189)]

/-- What is alphabetic and neither a mark, a number nor a symbol. -/
def isLetter (c : Char) : Bool :=
  Text.isAlphabetic c && !Text.markRanges.covers c.toNat && !Text.isNumber c &&
    !letterSymbols.covers c.toNat

def holds : CharProperty → Char → Bool
  | alphabetic, c => Text.isAlphabetic c
  | letter, c => isLetter c
  | mark, c => Text.markRanges.covers c.toNat
  | number, c => Text.isNumber c
  | digit, c => Text.isDigit c
  | connector, c => Text.connectorRanges.covers c.toNat
  | joiner, c => Text.joinerRanges.covers c.toNat
  | blank, c => Text.isBlank c
  | word, c => Text.isWord c

/-- The property of a name that is written in small letters without separators. -/
def ofName? (name : String) : Option CharProperty :=
  if name ∈ ["alphabetic", "alpha"] then some alphabetic
  else if name ∈ ["l", "letter"] then some letter
  else if name ∈ ["m", "mark", "combiningmark"] then some mark
  else if name ∈ ["n", "number"] then some number
  else if name ∈ ["nd", "decimalnumber", "digit"] then some digit
  else if name ∈ ["pc", "connectorpunctuation"] then some connector
  else if name ∈ ["joincontrol", "joinc"] then some joiner
  else if name ∈ ["whitespace", "wspace", "space"] then some blank
  else none

end CharProperty

inductive CharSet where
  /-- The code points from the first to the last. -/
  | interval (first last : Nat)
  | having (property : CharProperty)
  | complement (set : CharSet)
  | union (left right : CharSet)
  | intersection (left right : CharSet)
  /-- The letters of a set in any case. -/
  | anyCase (set : CharSet)
  deriving DecidableEq

namespace CharSet

def covers : CharSet → Char → Bool
  | interval first last, c => first ≤ c.toNat && c.toNat ≤ last
  | having property, c => property.holds c
  | complement set, c => !set.covers c
  | union left right, c => left.covers c || right.covers c
  | intersection left right, c => left.covers c && right.covers c
  | anyCase set, c => (Text.caseVariants c.toNat).any fun code => set.covers (Char.ofNat code)

/-- No character at all. -/
def nothing : CharSet := interval 1 0

def everything : CharSet := interval 0 0x10FFFF

def single (c : Char) : CharSet := interval c.toNat c.toNat

/-- The first 128 code points. -/
def ascii : CharSet := interval 0 0x7F

/-- The union of intervals. -/
def ofIntervals (intervals : List (Char × Char)) : CharSet :=
  intervals.foldl (fun set (first, last) => set.union (interval first.toNat last.toNat)) nothing

/-- What is in one set but not in another. -/
def difference (left right : CharSet) : CharSet := left.intersection right.complement

/-- What is in exactly one of two sets. -/
def symmetricDifference (left right : CharSet) : CharSet :=
  (left.difference right).union (right.difference left)

/-- The letters of a set in any case; other letters than those of ASCII keep theirs. -/
def anyAsciiCase (set : CharSet) : CharSet := set.union (set.anyCase.intersection ascii)

@[simp] theorem covers_nothing (c : Char) : nothing.covers c = false := by
  simp only [nothing, covers, Bool.and_eq_false_iff, decide_eq_false_iff_not]
  omega

@[simp] theorem covers_single (expected c : Char) :
    (single expected).covers c = (c == expected) := by
  have bounds : (single expected).covers c = true ↔ c = expected := by
    simp only [single, covers, Bool.and_eq_true, decide_eq_true_eq, ← Char.toNat_inj]
    omega
  rw [Bool.eq_iff_iff, bounds, beq_iff_eq]

@[simp] theorem covers_complement (set : CharSet) (c : Char) :
    set.complement.covers c = !set.covers c := by simp only [covers]

@[simp] theorem covers_union (left right : CharSet) (c : Char) :
    (left.union right).covers c = (left.covers c || right.covers c) := by
  simp only [covers]

@[simp] theorem covers_intersection (left right : CharSet) (c : Char) :
    (left.intersection right).covers c = (left.covers c && right.covers c) := by
  simp only [covers]

@[simp] theorem covers_difference (left right : CharSet) (c : Char) :
    (left.difference right).covers c = (left.covers c && !right.covers c) := by
  simp only [difference, covers]

/-- The sets of ASCII characters that are named between colons. -/
def ofAsciiName? : String → Option CharSet
  | "alnum" => some (ofIntervals [('0', '9'), ('A', 'Z'), ('a', 'z')])
  | "alpha" => some (ofIntervals [('A', 'Z'), ('a', 'z')])
  | "ascii" => some ascii
  | "blank" => some (ofIntervals [('\t', '\t'), (' ', ' ')])
  | "cntrl" => some (ofIntervals [('\x00', '\x1f'), ('\x7f', '\x7f')])
  | "digit" => some (ofIntervals [('0', '9')])
  | "graph" => some (ofIntervals [('!', '~')])
  | "lower" => some (ofIntervals [('a', 'z')])
  | "print" => some (ofIntervals [(' ', '~')])
  | "punct" => some (ofIntervals [('!', '/'), (':', '@'), ('[', '\x60'), ('\x7b', '~')])
  | "space" => some (ofIntervals [('\t', '\r'), (' ', ' ')])
  | "upper" => some (ofIntervals [('A', 'Z')])
  | "word" => some (ofIntervals [('0', '9'), ('A', 'Z'), ('_', '_'), ('a', 'z')])
  | "xdigit" => some (ofIntervals [('0', '9'), ('A', 'F'), ('a', 'f')])
  | _ => none

end CharSet
end QuestRecords
