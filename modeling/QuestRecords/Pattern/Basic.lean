import QuestRecords.Pattern.CharSet

/-! Patterns, and the search for a text that matches one. A pattern is worked through one character
at a time: what is left of it to be matched behind that character is again a list of patterns, any
of which may match the rest. -/
namespace QuestRecords

/-- Conditions on the two sides of a place in a text. -/
inductive Edge where
  | textStart
  | textEnd
  /-- A line starts here. It may end with a carriage return, too, if `returns`. -/
  | lineStart (returns : Bool)
  | lineEnd (returns : Bool)
  /-- Of two word characters on the sides, exactly one, both or none. The words are those of ASCII
  text if `ascii`. -/
  | wordBoundary (ascii : Bool)
  | noWordBoundary (ascii : Bool)
  | wordStart (ascii : Bool)
  | wordEnd (ascii : Bool)
  /-- No word character stands before the place. -/
  | wordStartHalf (ascii : Bool)
  /-- No word character stands behind the place. -/
  | wordEndHalf (ascii : Bool)
  deriving DecidableEq

namespace Edge

/-- Whether a word character stands on a side. -/
def isWordSide (ascii : Bool) (side : Option Char) : Bool :=
  side.any fun c => if ascii then c.isAlphanum || c == '_' else Text.isWord c

/-- Whether the condition holds between two characters; at an end of the text there is none. -/
def holds (before after : Option Char) : Edge → Bool
  | textStart => before.isNone
  | textEnd => after.isNone
  | lineStart false => before.all (· == '\n')
  | lineStart true => before.all fun c => c == '\n' || c == '\r' && after != some '\n'
  | lineEnd false => after.all (· == '\n')
  | lineEnd true => after.all fun c => c == '\r' || c == '\n' && before != some '\r'
  | wordBoundary ascii => isWordSide ascii before != isWordSide ascii after
  | noWordBoundary ascii => isWordSide ascii before == isWordSide ascii after
  | wordStart ascii => !isWordSide ascii before && isWordSide ascii after
  | wordEnd ascii => isWordSide ascii before && !isWordSide ascii after
  | wordStartHalf ascii => !isWordSide ascii before
  | wordEndHalf ascii => !isWordSide ascii after

end Edge

inductive Pattern where
  /-- The empty text. -/
  | empty
  /-- One character of a set. -/
  | one (set : CharSet)
  /-- The empty text at a place where a condition holds. -/
  | atEdge (edge : Edge)
  | seq (first second : Pattern)
  | either (left right : Pattern)
  /-- A pattern several times in a row; without `most`, any number of times. -/
  | repeated (body : Pattern) (least : Nat) (most : Option Nat)
  deriving DecidableEq

namespace Pattern

/-- One pattern behind the other. -/
def followedBy : Pattern → Pattern → Pattern
  | empty, second => second
  | first, second => seq first second

/-- Whether the empty text matches between two characters. -/
def matchesEmpty (before after : Option Char) : Pattern → Bool
  | empty => true
  | one _ => false
  | atEdge edge => edge.holds before after
  | seq first second => first.matchesEmpty before after && second.matchesEmpty before after
  | either left right => left.matchesEmpty before after || right.matchesEmpty before after
  | repeated body least _ => least == 0 || body.matchesEmpty before after

/-- What is left to be matched behind a character, which stands behind `before`. Of a repeated
pattern that matches the empty text there, any number of turns may have passed. -/
def behind (before : Option Char) (c : Char) : Pattern → List Pattern
  | empty => []
  | one set => if set.covers c then [empty] else []
  | atEdge _ => []
  | seq first second =>
    let within := (first.behind before c).map (·.followedBy second)
    if first.matchesEmpty before (some c) then within ++ second.behind before c else within
  | either left right => left.behind before c ++ right.behind before c
  | repeated body least most =>
    if most = some 0 then []
    else
      let least := if body.matchesEmpty before (some c) then 0 else least - 1
      (body.behind before c).map (·.followedBy (repeated body least (most.map (· - 1))))

/-- Searches the text ahead. Each of `pending` is what is left of the pattern at one of the places
where a match may have begun. -/
def searchFrom (pattern : Pattern) (before : Option Char) (pending : List Pattern) : Text → Bool
  | [] => pending.any (·.matchesEmpty before none)
  | c :: rest =>
    pending.any (·.matchesEmpty before (some c)) ||
      searchFrom pattern (some c) (pattern :: (pending.flatMap (·.behind before c)).eraseDups) rest

/-- Whether some part of a text matches. -/
def occursIn (pattern : Pattern) (text : Text) : Bool := searchFrom pattern none [pattern] text

end Pattern
end QuestRecords
