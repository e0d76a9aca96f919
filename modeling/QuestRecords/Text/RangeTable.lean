/-! Sets of code points, written as tables of closed ranges in ascending order. -/
namespace QuestRecords.Text

/-- Closed ranges of code points, ascending and disjoint. -/
abbrev RangeTable := List (Nat × Nat)

/-- Whether a code point lies in one of the ranges. The search ends at the first range that
starts above it. -/
def RangeTable.covers : RangeTable → Nat → Bool
  | [], _ => false
  | (first, last) :: rest, code =>
    if code < first then false else code ≤ last || covers rest code

end QuestRecords.Text
