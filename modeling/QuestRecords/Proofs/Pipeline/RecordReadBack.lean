import QuestRecords.Proofs.Pipeline.RecordWrite
import QuestRecords.Proofs.Quest.RecordRoundTrip

namespace QuestRecords

namespace FileTree

theorem own_readText_run {path text : String} {tree : FileTree}
    (read : tree.read path = .ok text.toUTF8) :
    (own.readText path).run tree = pure (.ok text, tree) := by
  have got : (own.read path).run tree = pure (tree.read path, tree) := rfl
  have decoded : String.fromUTF8? text.toUTF8 = some text := by
    rw [String.fromUTF8?, dif_pos (String.toUTF8_eq_toByteArray ▸ text.isValidUTF8)]
    rfl
  simp only [FileAccess.readText, StateT.run_bind, got, read, pure_bind, decoded]
  rfl

end FileTree

/-- Every record is read back from its text, and from the file that it was written to. -/
theorem QuestRecord.read_back (record : QuestRecord) :
    parse? record.fileText = some record ∧
      ∀ {directory key path : String} {tree left : FileTree},
        ((Output.directory FileTree.own directory).writeRecord key record).run tree =
            (.ok path, left) →
          path = recordPath directory key ∧ ∃ text,
            (FileTree.own.readText path).run left = (.ok text, left) ∧
              text.toList = record.fileText ∧ parse? text.toList = some record := by
  refine ⟨record.parse?_fileText, ?_⟩
  intro directory key path tree left wrote
  rcases FileTree.writeDocument_own_cases wrote with ⟨error, failed, -⟩ | ⟨same, written⟩
  · cases failed
  · cases same
    refine ⟨rfl, String.ofList record.fileText, ?_, String.toList_ofList, ?_⟩
    · exact FileTree.own_readText_run (FileTree.read_write written)
    · rw [String.toList_ofList, record.parse?_fileText]

/-- A record with quotes, control characters and wide characters in it, and with numbers at the
ends of their ranges. -/
def extremeRecord : QuestRecord where
  name := "\"\\ \x00\x01\x1f\x7f\n é 𝄞 /"
  questPoints := Int64.minValue
  experienceRewards := [⟨"", Int64.maxValue⟩]
  lampReward := some {}
  skillRequirements := []
  questRequirements := ["", "\t"]
  questPointRequirement := some 0
  itemRequirements := []
  panels := [⟨"a", [⟨"b", ⟨Int32.minValue, 0, Int32.maxValue⟩⟩]⟩, ⟨"", []⟩]

theorem QuestRecord.read_back_extreme :
    ∃ left text, ((Output.directory FileTree.own "out/deep").writeRecord "k" extremeRecord).run {} =
        (.ok "out/deep/k.json", left) ∧
      (FileTree.own.readText "out/deep/k.json").run left = (.ok text, left) ∧
        parse? text.toList = some extremeRecord := by
  obtain ⟨left, wrote⟩ : ∃ left, ((Output.directory FileTree.own "out/deep").writeRecord "k"
      extremeRecord).run {} = (.ok "out/deep/k.json", left) := ⟨_, rfl⟩
  obtain ⟨-, text, read, -, parsed⟩ := extremeRecord.read_back.2 wrote
  exact ⟨left, text, wrote, read, parsed⟩

end QuestRecords
