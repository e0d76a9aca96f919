import QuestRecords.Text.CaseTable

/-! Letters that are the same but for their case. Two code points are the same letter when the
lower case of their upper case is the same. The capital with a dot and the small letter without
one are letters of their own. -/
namespace QuestRecords.Text

/-- The code point that stands for all cases of a letter. -/
def caseFolded (code : Nat) : Nat :=
  if code = 0x130 ∨ code = 0x131 then code
  else shiftedBy lowerRuns (shiftedBy upperRuns code)

/-- The code points that runs map to a code point. -/
def sourcesOf (runs : List CaseRun) (code : Nat) : List Nat :=
  let moved := runs.filterMap fun run =>
    let source := ((code : Int) - run.shift).toNat
    if run.contains source then some source else none
  if shiftedBy runs code = code then code :: moved else moved

/-- A code point, and all others that are the same letter. -/
def caseVariants (code : Nat) : List Nat :=
  let letter := caseFolded code
  code :: ((sourcesOf lowerRuns letter).flatMap (sourcesOf upperRuns)).filter
    (caseFolded · = letter)

end QuestRecords.Text
