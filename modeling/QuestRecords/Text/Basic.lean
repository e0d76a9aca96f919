import QuestRecords.Total

/-! Source text as the list of its characters. Places in it are byte offsets of its UTF-8 form,
so every length that is reported is a `width`. -/
namespace QuestRecords

abbrev Text := List Char

namespace Text

/-- The number of bytes of the UTF-8 form. -/
def width (text : Text) : Nat := total Char.utf8Size text

@[simp] theorem width_nil : width [] = 0 := rfl

@[simp] theorem width_cons (c : Char) (text : Text) :
    width (c :: text) = c.utf8Size + width text := by
  simp [width]

@[simp] theorem width_append (left right : Text) :
    width (left ++ right) = width left + width right := by
  simp [width]

@[simp] theorem width_reverse (text : Text) : width text.reverse = width text := by
  simp [width]

/-- Splits at a byte offset; there is no split inside a character or past the end. -/
def splitAt? : Text → Nat → Option (Text × Text)
  | text, 0 => some ([], text)
  | [], _ + 1 => none
  | c :: rest, offset + 1 =>
    if c.utf8Size ≤ offset + 1 then
      (splitAt? rest (offset + 1 - c.utf8Size)).map fun (before, after) => (c :: before, after)
    else none

/-- The text between two byte offsets, when both fall between characters and in order. -/
def slice? (text : Text) (start stop : Nat) : Option Text := do
  let (_, after) ← text.splitAt? start
  if start ≤ stop then
    let (between, _) ← after.splitAt? (stop - start)
    return between
  else none

/-- What follows a given beginning of a text. -/
def after? : Text → Text → Option Text
  | [], text => some text
  | _ :: _, [] => none
  | expected :: beginning, c :: text => if c = expected then after? beginning text else none

theorem after?_eq_some_iff {beginning text rest : Text} :
    after? beginning text = some rest ↔ text = beginning ++ rest := by
  fun_induction after? beginning text with
  | case1 => simp [eq_comm]
  | case2 => simp
  | case3 beginning c text ih => simp [ih]
  | case4 expected beginning c text different => simp [different]

/-- What was read when `rest` is left of `text`. -/
def upTo (text rest : Text) : Text := text.take (text.length - rest.length)

theorem upTo_append (read rest : Text) : upTo (read ++ rest) rest = read := by
  simp [upTo]

end Text
end QuestRecords
