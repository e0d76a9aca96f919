import QuestRecords.Proofs.Batch.Visit
import Mathlib.Data.List.Nodup
import Mathlib.Data.List.Perm.Basic

namespace QuestRecords

section Writes

variable {files : String → Option ByteArray} {writes : List (String × ByteArray)}

theorem foldl_put_of_notMem {path : String} (untouched : path ∉ writes.map Prod.fst) :
    writes.foldl put files path = files path := by
  induction writes generalizing files with
  | nil => rfl
  | cons write writes ih =>
    rw [List.map_cons, List.mem_cons, not_or] at untouched
    obtain ⟨different, later⟩ := untouched
    rw [List.foldl_cons, ih later, put, Function.update_of_ne different]

/-- Where every path is written once, each file holds what was written to it. -/
theorem foldl_put_of_mem (distinct : (writes.map Prod.fst).Nodup) {path : String}
    {content : ByteArray} (member : (path, content) ∈ writes) :
    writes.foldl put files path = some content := by
  induction writes generalizing files with
  | nil => cases member
  | cons write writes ih =>
    obtain ⟨fresh, distinct⟩ := List.nodup_cons.mp distinct
    rw [List.foldl_cons]
    rcases List.mem_cons.mp member with rfl | later
    · rw [foldl_put_of_notMem fresh, put, Function.update_self]
    · exact ih distinct later

/-- Where every path is written once, the order of the writes does not matter. -/
theorem foldl_put_perm {others : List (String × ByteArray)} (same : writes.Perm others)
    (distinct : (writes.map Prod.fst).Nodup) : writes.foldl put files = others.foldl put files := by
  refine same.foldl_eq' (fun first member second another files => ?_) files
  by_cases path : first.1 = second.1
  · rw [List.inj_on_of_nodup_map distinct member another path]
  · exact Function.update_comm path _ _ _

end Writes

namespace Visit

variable {directory : String} {visits : List Visit}

theorem Sound.written {visit : Visit} (sound : visit.Sound directory) :
    visit.outcome.path? = visit.outcome.key?.map (recordPath directory) ∧
      visit.written?.map Prod.fst = visit.outcome.path? ∧
      ∀ path, visit.outcome.path? = some path →
        ∃ content, visit.content? = some content ∧ visit.written? = some (path, content) := by
  cases ended : visit.outcome.ending with
  | skipped stage code message =>
    have path : visit.outcome.path? = none := by rw [Outcome.path?, ended]
    have key : visit.outcome.key? = none := by rw [Outcome.key?, ended]
    simp [path, key, written?]
  | done key path =>
    obtain ⟨source, given, -, placed⟩ := sound.done key path ended
    have content : visit.content? =
        some (ExtractedQuest.ofSource visit.outcome.name source).value.record.content := by
      rw [content?, given]
    have located : visit.outcome.path? = some path := by rw [Outcome.path?, ended]
    have named : visit.outcome.key? = some key := by rw [Outcome.key?, ended]
    simp [located, named, content, written?, placed]

theorem Sound.key_plain {visit : Visit} (sound : visit.Sound directory) {key : String}
    (named : visit.outcome.key? = some key) : Path.Plain key.toList := by
  rw [Outcome.key?] at named
  split at named
  · rename_i ended
    cases named
    obtain ⟨source, -, same, -⟩ := sound.done _ _ ended
    exact same ▸ ExtractedQuest.key_plain visit.outcome.name source
  · cases named

theorem paths_written (sound : ∀ visit ∈ visits, visit.Sound directory) :
    (visits.filterMap written?).map Prod.fst =
      visits.filterMap fun visit => visit.outcome.path? := by
  rw [List.map_filterMap]
  exact List.filterMap_congr fun visit member => (sound visit member).written.2.1

theorem paths_of_keys (sound : ∀ visit ∈ visits, visit.Sound directory) :
    (visits.filterMap fun visit => visit.outcome.path?) =
      (visits.filterMap fun visit => visit.outcome.key?).map (recordPath directory) := by
  rw [List.map_filterMap]
  exact List.filterMap_congr fun visit member => (sound visit member).written.1

/-- Different keys, different paths. -/
theorem paths_nodup_iff (sound : ∀ visit ∈ visits, visit.Sound directory) :
    (visits.filterMap fun visit => visit.outcome.path?).Nodup ↔
      (visits.filterMap fun visit => visit.outcome.key?).Nodup := by
  rw [paths_of_keys sound]
  refine ⟨List.Nodup.of_map _, fun distinct => distinct.map_on ?_⟩
  intro first member second another same
  obtain ⟨visit, present, named⟩ := List.mem_filterMap.mp member
  obtain ⟨visit', present', named'⟩ := List.mem_filterMap.mp another
  exact recordPath_injective ((sound visit present).key_plain named)
    ((sound visit' present').key_plain named') same

end Visit
end QuestRecords
