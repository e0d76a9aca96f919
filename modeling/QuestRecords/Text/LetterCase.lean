import QuestRecords.Text.Basic
import QuestRecords.Text.CaseTable

/-! Upper and lower case of characters and of whole texts. A capital sigma at the end of a word
is lowered to the final sigma, every other character by its own mapping. -/
namespace QuestRecords.Text

def mapCase (expansions : List (Nat × List Nat)) (runs : List CaseRun) (c : Char) : Text :=
  match expansions.lookup c.toNat with
  | some codes => codes.map Char.ofNat
  | none => [Char.ofNat (shiftedBy runs c.toNat)]

/-- The upper case of one character, which may be several characters. -/
def upperChar (c : Char) : Text := mapCase upperExpansions upperRuns c

/-- The lower case of one character on its own. -/
def lowerChar (c : Char) : Text := mapCase lowerExpansions lowerRuns c

def isCased (c : Char) : Bool := casedRanges.covers c.toNat

def isCaseIgnorable (c : Char) : Bool := caseIgnorableRanges.covers c.toNat

/-- Past any case-ignorable characters there stands a cased one. -/
def meetsCased (text : Text) : Bool := (text.dropWhile isCaseIgnorable).head?.any isCased

/-- A capital sigma ends its word when a cased letter stands before it and none after it. -/
def lowerSigma (behind ahead : Text) : Char :=
  if meetsCased behind && !meetsCased ahead then 'ς' else 'σ'

/-- Lowers the text ahead; `behind` is what stands before it, nearest character first. -/
def lowerFrom (behind : Text) : Text → Text
  | [] => []
  | c :: ahead =>
    (if c = 'Σ' then [lowerSigma behind ahead] else lowerChar c) ++ lowerFrom (c :: behind) ahead

/-- The lower case of a text. -/
def lower (text : Text) : Text := lowerFrom [] text

end QuestRecords.Text
