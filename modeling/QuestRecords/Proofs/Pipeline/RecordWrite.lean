import QuestRecords.Proofs.Batch.Visit
import QuestRecords.Proofs.Files.TreeWrites

/-! Where records are written. Whatever a source declares, its record is one file of the output
directory, named after a key in which no character divides a path or a file name; an attempt
changes no other file. -/
namespace QuestRecords

open Text QuestRecords.Path

namespace ExtractedQuest

/-- The key of a record has no separator, no dot and no character of code zero. -/
theorem key_undivided (displayName : String) (source : Text) :
    ∀ c ∈ (ofSource displayName source).value.key.toList,
      c ≠ '/' ∧ c ≠ '\\' ∧ c ≠ '.' ∧ c ≠ '\x00' := by
  have native (d : Char) (foreign : Foreign d) := foreign.notMem_key displayName source
  intro c member
  obtain ⟨slash, backslash, null⟩ := undivided_of_foreign native c member
  refine ⟨slash, backslash, ?_, null⟩
  rintro rfl
  exact native '.' (foreign_of_divider rfl) member

theorem ordinary_recordFile (displayName : String) (source : Text) :
    Ordinary ((ofSource displayName source).value.key ++ ".json") := by
  have undivided := undivided_of_foreign fun d foreign => foreign.notMem_key displayName source
  rw [← String.ofList_toList (s := ".json")]
  exact Ordinary.of_extension undivided (c := 'j') (by decide) (by decide) (by decide)

end ExtractedQuest

theorem recordFile_eq (key : String) :
    String.ofList (Naming.recordFile key.toList) = key ++ ".json" := by
  rw [Naming.recordFile, String.ofList_append, String.ofList_toList, String.ofList_toList]

theorem recordPath_extends (directory : String) {key : String} (ordinary : Ordinary (key ++ ".json")) :
    Extends directory (recordPath directory key) [key ++ ".json"] := by
  rw [recordPath, recordFile_eq]
  exact ordinary.steps ▸ extends_join ordinary.relative

theorem exists_run {σ α : Type} (action : StateM σ α) (state : σ) :
    ∃ value left, action.run state = pure (value, left) := ⟨_, _, rfl⟩

namespace FileTree

/-- The access to a tree that is the whole state. -/
def own : FileAccess (StateM FileTree) := access id fun tree _ => tree

theorem own_write_run (path : String) (content : ByteArray) (tree : FileTree) :
    (own.write path content).run tree = match tree.write path content with
      | .ok written => pure (.ok (), written)
      | .error fault => pure (.error fault, tree) := by
  have got : (get : StateM FileTree FileTree).run tree = pure (tree, tree) := rfl
  simp only [own, access, StateT.run_bind, got, pure_bind, id]
  cases tree.write path content <;> rfl

/-- Where a document is not written into a directory of a tree, at most directories were made; where
it is, its text was written after that. -/
theorem writeDocument_own_cases {directory fileName : String} {document : Json}
    {tree left : FileTree} {result : Except PersistError String}
    (wrote : ((Output.directory own directory).writeDocument fileName document).run tree =
      pure (result, left)) :
    (∃ error, result = .error error ∧ left = (tree.makeDirectories directory).1) ∨
      result = .ok (join directory fileName) ∧
        (tree.makeDirectories directory).1.write (join directory fileName)
          (String.ofList document.pretty).toUTF8 = .ok left := by
  have made : (own.makeDirectories directory).run tree =
      pure ((tree.makeDirectories directory).2, (tree.makeDirectories directory).1) := rfl
  simp only [Output.writeDocument, Output.directory, Output.ensureDirectory, StateT.run_bind,
    bind_assoc, made, pure_bind] at wrote
  generalize tree.makeDirectories directory = making at wrote ⊢
  obtain ⟨began, fault?⟩ := making
  cases fault? with
  | error fault =>
    cases wrote
    exact .inl ⟨_, rfl, rfl⟩
  | ok _ =>
    have ran := own_write_run (join directory fileName) (String.ofList document.pretty).toUTF8 began
    cases done : began.write (join directory fileName) (String.ofList document.pretty).toUTF8 with
    | error fault =>
      rw [done] at ran
      simp only [StateT.run_pure, pure_bind, StateT.run_bind, ran] at wrote
      cases wrote
      exact .inl ⟨_, rfl, rfl⟩
    | ok written =>
      rw [done] at ran
      simp only [StateT.run_pure, pure_bind, StateT.run_bind, ran] at wrote
      cases wrote
      exact .inr ⟨rfl, rfl⟩

/-- A document written into a directory of a tree changes at most the one file of its name. -/
theorem writeDocument_own {directory fileName : String}
    (goesOn : Extends directory (join directory fileName) [fileName]) {document : Json}
    {tree left : FileTree} {result : Except PersistError String}
    (wrote : ((Output.directory own directory).writeDocument fileName document).run tree =
      pure (result, left)) :
    (∀ path, result = .ok path → path = join directory fileName) ∧
      ∀ place, left.fileAt? place ≠ tree.fileAt? place →
        result = .ok (join directory fileName) ∧
          left.fileAt? place = some (String.ofList document.pretty).toUTF8 ∧
            ∃ base, (tree.makeDirectories directory).1.follow directory = .ok base ∧
              place = base ++ [fileName] := by
  have directories := sameFiles_makeDirectories tree directory
  rcases writeDocument_own_cases wrote with ⟨error, rfl, rfl⟩ | ⟨rfl, done⟩
  · exact ⟨fun _ => (nomatch ·), fun place changed => absurd (directories place) changed⟩
  · obtain ⟨base, followed, files⟩ := fileAt?_write goesOn done
    refine ⟨fun path same => (Except.ok.inj same).symm, fun place changed => ⟨rfl, ?_⟩⟩
    have here : place = base ++ [fileName] := by
      by_contra elsewhere
      exact changed ((files place).trans ((if_neg elsewhere).trans (directories place)))
    exact ⟨(files place).trans (if_pos here), base, followed, here⟩

/-- A record written into a directory of a tree changes at most the one file of its key. -/
theorem writeRecord_own {directory key : String} (ordinary : Ordinary (key ++ ".json"))
    {record : QuestRecord} {tree left : FileTree} {result : Except PersistError String}
    (wrote : ((Output.directory own directory).writeRecord key record).run tree =
      pure (result, left)) :
    (∀ path, result = .ok path → path = recordPath directory key) ∧
      ∀ place, left.fileAt? place ≠ tree.fileAt? place →
        result = .ok (recordPath directory key) ∧ left.fileAt? place = some record.content ∧
          ∃ base, (tree.makeDirectories directory).1.follow directory = .ok base ∧
            place = base ++ [key ++ ".json"] := by
  have goesOn := recordPath_extends directory ordinary
  rw [Output.writeRecord, recordFile_eq] at wrote
  rw [recordPath, recordFile_eq] at goesOn ⊢
  exact writeDocument_own goesOn wrote

end FileTree

namespace Attempt

/-- An attempt at a quest whose source was fetched ends as the writing of its record does. -/
theorem run_source {σ : Type} (entering : Stage → List Event) {fetcher : Fetcher (StateM σ)}
    {output : Output (StateM σ)} {displayName : String} {source : Text} {before middle last : σ}
    {result : Except PersistError String}
    (fetched : (fetcher.fetch (askedFor displayName)).run before = pure (.source source, middle))
    (recorded : (output.writeRecord (ExtractedQuest.ofSource displayName source).value.key
      (ExtractedQuest.ofSource displayName source).value.record).run middle = pure (result, last)) :
    ∃ progress, (run entering fetcher output displayName).run before =
      pure (ofWritten (ExtractedQuest.ofSource displayName source).value progress result, last) := by
  rw [askedFor] at fetched
  simp only [run, StateT.run_bind]
  rw [fetched, pure_bind, StateT.run_bind, recorded]
  exact ⟨_, rfl⟩

/-- Whatever a source declares, the record made from it is written as one file of the output
directory, which is named after its key; no other file is changed. -/
theorem record_inside (directory displayName : String) (source : Text)
    (entering : Stage → List Event) (fetcher : Fetcher (StateM FileTree)) (before tree : FileTree)
    (fetched : (fetcher.fetch (askedFor displayName)).run before = (.source source, tree)) :
    let quest := (ExtractedQuest.ofSource displayName source).value
    let last := (run entering fetcher (Output.directory FileTree.own directory) displayName).run before
    (∀ c ∈ quest.key.toList, c ≠ '/' ∧ c ≠ '\\' ∧ c ≠ '.' ∧ c ≠ '\x00') ∧
      Ordinary (quest.key ++ ".json") ∧
      Extends directory (recordPath directory quest.key) [quest.key ++ ".json"] ∧
      (∀ done path, last.1.result = .ok (done, path) →
        done.key = quest.key ∧ path = recordPath directory quest.key) ∧
      ∀ place, last.2.fileAt? place ≠ tree.fileAt? place →
        last.1.result = .ok (quest, recordPath directory quest.key) ∧
          last.2.fileAt? place = some quest.record.content ∧
            ∃ base, (tree.makeDirectories directory).1.follow directory = .ok base ∧
              place = base ++ [quest.key ++ ".json"] := by
  intro quest last
  have ordinary := ExtractedQuest.ordinary_recordFile displayName source
  obtain ⟨result, left, wrote⟩ := exists_run
    ((Output.directory FileTree.own directory).writeRecord quest.key quest.record) tree
  obtain ⟨progress, ended⟩ := run_source entering fetched wrote
  obtain ⟨whole, changes⟩ := FileTree.writeRecord_own ordinary wrote
  refine ⟨ExtractedQuest.key_undivided displayName source, ordinary,
    recordPath_extends directory ordinary, ?_, ?_⟩
  · intro done path finished
    rw [show last = _ from ended] at finished
    cases result with
    | ok written =>
      cases finished
      exact ⟨rfl, whole _ rfl⟩
    | error error => cases finished
  · intro place changed
    rw [show last = _ from ended] at changed ⊢
    obtain ⟨rfl, content, place⟩ := changes place changed
    exact ⟨rfl, content, place⟩

/-- A name full of steps upwards, for which no class is declared, in a tree without files. -/
theorem record_inside_upwards :
    let fetcher : Fetcher (StateM FileTree) := ⟨id, fun _ => pure (.source [])⟩
    let last := (run (fun _ => []) fetcher (Output.directory FileTree.own "out")
      "../../etc/passwd").run {}
    (ExtractedQuest.ofSource "../../etc/passwd" []).value.key = "etcpasswd" ∧
      Extends "out" (recordPath "out" "etcpasswd") ["etcpasswd.json"] ∧
      (last.2.fileAt? ["out", "etcpasswd.json"]).isSome = true ∧
      ∀ place, last.2.fileAt? place ≠ none → ∃ base, place = base ++ ["etcpasswd.json"] := by
  intro fetcher last
  have key : (ExtractedQuest.ofSource "../../etc/passwd" []).value.key = "etcpasswd" := by
    decide +kernel
  have empty (place : Place) : ({} : FileTree).fileAt? place = none := by
    rw [FileTree.fileAt?, FileTree.get?]
    by_cases root : place = []
    · rw [if_pos root]
    · rw [if_neg root]
      rfl
  obtain ⟨-, -, goesOn, -, changes⟩ := record_inside "out" "../../etc/passwd" [] (fun _ => [])
    fetcher {} {} rfl
  rw [key] at goesOn
  refine ⟨key, goesOn, by decide +kernel, fun place written => ?_⟩
  obtain ⟨-, -, base, -, below⟩ := changes place ((empty place).symm ▸ written)
  rw [key] at below
  exact ⟨base, below⟩

end Attempt
end QuestRecords
