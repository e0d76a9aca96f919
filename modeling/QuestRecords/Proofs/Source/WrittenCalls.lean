import QuestRecords.Proofs.Source.Readings
import QuestRecords.Proofs.Source.WrittenArguments

namespace QuestRecords.Source.Call

open Text

def written (behind head : Text) (items : List Text) : Call where
  start := width behind
  stop := width (behind.reverse ++ callSource head items)
  argsStart := width behind + width head + 1
  args := commaSeparated items
  text := callSource head items

variable {items : List Text}

theorem arguments_written (sole : ∀ item ∈ items, SoleArgument item) (behind head : Text) :
    (written behind head items).arguments = items :=
  splitArguments_commaSeparated sole

theorem ofParen?_callSource (sole : ∀ item ∈ items, SoleArgument item) (behind head after : Text) :
    ofParen? ⟨behind, callSource head items ++ after⟩
      ('(' :: (commaSeparated items ++ ')' :: after)) = some (written behind head items) := by
  have header := upTo_append head ('(' :: (commaSeparated items ++ ')' :: after))
  rw [ofParen?, (nested_commaSeparated sole).parenthesised?_eq, Option.map_some,
    callSource_append, header]
  simp [written, callSource, Site.offset]
  omega

theorem at?_callSource (typeName : Text) {behind : Text} (sole : ∀ item ∈ items, SoleArgument item)
    (solid : typeName.head?.any isGap = false)
    (apart : behind.head?.any continuesWord = false) (after : Text) :
    at? typeName ⟨behind, callSource ("new ".toList ++ typeName) items ++ after⟩ =
      some (written behind ("new ".toList ++ typeName) items) := by
  have spaced : skipGaps (typeName ++ '(' :: (commaSeparated items ++ ')' :: after)) =
      typeName ++ '(' :: (commaSeparated items ++ ')' :: after) := by
    cases typeName with
    | nil => rfl
    | cons c rest => exact List.dropWhile_cons_of_neg (by simpa using solid)
  have new : (after? ['n', 'e', 'w'] (callSource ("new ".toList ++ typeName) items ++ after)).bind
      skipGaps1? = some (typeName ++ '(' :: (commaSeparated items ++ ')' :: after)) := by
    rw [callSource_append, List.append_assoc]
    exact congrArg some spaced
  have header : header? typeName
      ⟨behind, callSource ("new ".toList ++ typeName) items ++ after⟩ =
        some ('(' :: (commaSeparated items ++ ')' :: after)) := by
    rw [Offsets.header?_eq, apart, if_neg Bool.false_ne_true, new, Option.bind_some,
      after?_eq_some_iff.mpr rfl]
    rfl
  rw [at?, header, Option.bind_some, ofParen?_callSource sole]

end QuestRecords.Source.Call
