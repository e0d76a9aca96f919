import QuestRecords.Proofs.Batch.Completed

/-! When every record of a batch is kept. Two records with one key share a file, and the report
shares it with a record whose class is named as the report file is; there is no other way to lose
one. -/
namespace QuestRecords

variable {σ : Type}

/-- Every record that was written lies at its path, and no two lie at one. -/
structure RecordsKept (visits : List Visit) (files : String → Option ByteArray) : Prop where
  kept : ∀ visit ∈ visits, ∀ path, visit.outcome.path? = some path →
    ∃ content, visit.content? = some content ∧ files path = some content
  apart : (visits.filterMap fun visit => visit.outcome.path?).Nodup

/-- The attempts that a batch made: one at each quest of its list, with the answer of the fetcher,
ending as the outcomes say. -/
structure Attempted (directory : String) (names : List String) (before behind : Room σ)
    (outcomes : List Outcome) (visits : List Visit) : Prop where
  whole : (visits.map fun visit => visit.outcome.entry).Perm names.zipIdx
  ended : outcomes.Perm (visits.map Visit.outcome)
  fetched : behind.fetched =
    before.fetched ++ visits.map fun visit => (askedFor visit.outcome.name, visit.fetched)
  sound : ∀ visit ∈ visits, visit.Sound directory

/-- The key whose record would have the name of the report file. -/
def reportKey : String := "_batch_report"

theorem recordPath_reportKey (directory : String) :
    recordPath directory reportKey = Path.join directory Batch.reportFile := rfl

theorem reportKey_plain : Path.Plain reportKey.toList := by
  have undivided : reportKey.toList.all (fun c => !Path.isDivider c) = true := rfl
  simpa [Path.Plain] using undivided

theorem pretty_object (name : String) (value : Json) (members : List (String × Json)) :
    ∃ rest, (Json.object ((name, value) :: members)).pretty =
      '\x7b' :: Json.newLine 1 ++ Json.quote name ++ rest := by
  rw [Json.pretty, Json.indented]
  cases members with
  | nil =>
    rw [Json.indentedMembers]
    exact ⟨_, by simp only [List.append_assoc, List.cons_append]; rfl⟩
  | cons member members =>
    rw [Json.indentedMembers]
    · exact ⟨_, by simp only [List.append_assoc, List.cons_append]; rfl⟩
    · simp

theorem report_ne_content (results : BatchResults) (startedAt : String) (milliseconds : Nat)
    (record : QuestRecord) :
    (String.ofList (results.report startedAt milliseconds).pretty).toUTF8 ≠ record.content := by
  intro same
  have texts : (results.report startedAt milliseconds).pretty = record.toJson.pretty :=
    String.ofList_injective (String.toByteArray_inj.mp same)
  obtain ⟨rest, report⟩ : ∃ rest, (results.report startedAt milliseconds).pretty =
      '\x7b' :: Json.newLine 1 ++ Json.quote "startedAt" ++ rest := pretty_object _ _ _
  obtain ⟨others, written⟩ : ∃ rest, record.toJson.pretty =
      '\x7b' :: Json.newLine 1 ++ Json.quote "name" ++ rest := pretty_object _ _ _
  have first : (results.report startedAt milliseconds).pretty[5]? = some 's' := by
    exact (congrArg (·[5]?) report).trans rfl
  have second : record.toJson.pretty[5]? = some 'n' := by
    exact (congrArg (·[5]?) written).trans rfl
  rw [texts, second] at first
  cases first

theorem Serialised.attempted {around : Surroundings σ} {directory : String} {names : List String}
    {before behind : World σ} {outcomes : List Outcome} {order : List (String × Nat)}
    (serial : Serialised around directory names before behind outcomes order) :
    let visits := Room.visitsOf around directory order before.room
    Attempted directory names before.room behind.room outcomes visits ∧
      behind.room.files = (visits.filterMap Visit.written?).foldl put before.room.files := by
  intro visits
  obtain ⟨sound, results, fetched, files⟩ := Room.visitAll_leaves around directory order before.room
  rw [serial.ran] at fetched files
  have entries := Room.visitAll_entries around directory order before.room
  refine ⟨⟨?_, results ▸ serial.placed, fetched, sound⟩, files⟩
  refine (List.Perm.of_eq ?_).trans serial.whole
  have named : visits.map (fun visit => visit.outcome.entry) =
      (visits.map Visit.outcome).map Outcome.entry := by rw [List.map_map]; rfl
  rw [named, ← results, List.map_map]
  exact entries

namespace Attempted

variable {directory : String} {names : List String} {before behind : Room σ}
variable {outcomes : List Outcome} {visits : List Visit}

theorem keys (attempted : Attempted directory names before behind outcomes visits) :
    (outcomes.filterMap Outcome.key?).Perm
      (visits.filterMap fun visit => visit.outcome.key?) := by
  have ended := attempted.ended.filterMap Outcome.key?
  rwa [List.filterMap_map] at ended

/-- Records with different keys are all there when the attempts are over. -/
theorem kept (attempted : Attempted directory names before behind outcomes visits)
    (files : behind.files = (visits.filterMap Visit.written?).foldl put before.files)
    (distinct : (outcomes.filterMap Outcome.key?).Nodup) : RecordsKept visits behind.files where
  apart := (Visit.paths_nodup_iff attempted.sound).mpr (attempted.keys.nodup_iff.mp distinct)
  kept visit member path located := by
    obtain ⟨content, same, written⟩ := (attempted.sound visit member).written.2.2 path located
    refine ⟨content, same, ?_⟩
    rw [files]
    refine foldl_put_of_mem ?_ (List.mem_filterMap.mpr ⟨visit, member, written⟩)
    rw [Visit.paths_written attempted.sound, Visit.paths_nodup_iff attempted.sound]
    exact attempted.keys.nodup_iff.mp distinct

end Attempted

/-- The report is written behind all records, and takes the place of one only when the key of that
record is the name of the report. -/
theorem RecordsKept.put_report_iff {directory : String} {visits : List Visit}
    {files : String → Option ByteArray} (kept : RecordsKept visits files)
    (sound : ∀ visit ∈ visits, visit.Sound directory) (results : BatchResults) (startedAt : String)
    (milliseconds : Nat) :
    RecordsKept visits (put files (Path.join directory Batch.reportFile,
      (String.ofList (results.report startedAt milliseconds).pretty).toUTF8)) ↔
      reportKey ∉ visits.filterMap fun visit => visit.outcome.key? := by
  rw [← recordPath_reportKey]
  constructor
  · intro still member
    obtain ⟨visit, present, named⟩ := List.mem_filterMap.mp member
    have located : visit.outcome.path? = some (recordPath directory reportKey) := by
      rw [(sound visit present).written.1, named]
      rfl
    obtain ⟨content, same, found⟩ := still.kept visit present _ located
    rw [put, Function.update_self, Option.some.injEq] at found
    dsimp only at found
    rw [Visit.content?] at same
    split at same
    · rw [← Option.some.inj same] at found
      exact report_ne_content results startedAt milliseconds _ found
    · cases same
  · intro absent
    refine ⟨fun visit present path located => ?_, kept.apart⟩
    obtain ⟨content, same, found⟩ := kept.kept visit present path located
    refine ⟨content, same, ?_⟩
    rw [put, Function.update_of_ne, found]
    rintro rfl
    rw [(sound visit present).written.1] at located
    obtain ⟨key, named, path⟩ := Option.map_eq_some_iff.mp located
    have plain := (sound visit present).key_plain named
    have key_same := recordPath_injective plain reportKey_plain path
    exact absent (List.mem_filterMap.mpr ⟨visit, present, key_same ▸ named⟩)

namespace Batch

def reportWritten (settings : BatchSettings) : Option InputContext × Event :=
  (none, reportMessage (.ok (Path.join settings.outputDirectory reportFile)))

theorem reportWritten_mem_iff {settings : BatchSettings} {results : BatchResults}
    {reported? : Option (Except PersistError String)} {before behind : World σ}
    (closed : Closed settings results reported? before behind) (quests : Nat)
    (within : List (Option InputContext × Event)) (named : ∀ entry ∈ within, entry.1 ≠ none) :
    reportWritten settings ∈ (none, startMessage settings quests) :: within ++
        ((reported?.toList.map reportMessage) ++ [doneMessage results]).map (none, ·) ↔
      ∃ path, reported? = some (.ok path) := by
  have start : reportWritten settings ≠ (none, startMessage settings quests) := fun same =>
    absurd (congrArg (fun entry => entry.2.message) same :
      "Batch report written" = "Starting batch") (by decide)
  have done : reportWritten settings ≠ (none, doneMessage results) := fun same =>
    absurd (congrArg (fun entry => entry.2.message) same :
      "Batch report written" = "Batch complete") (by decide)
  have outside : reportWritten settings ∉ within := fun member => named _ member rfl
  simp only [List.mem_append, List.mem_cons, start, outside, false_or, List.map_append,
    List.map_cons, List.map_nil, done, or_false, List.not_mem_nil]
  cases reported? with
  | none => simp
  | some written =>
    cases written with
    | error error =>
      have failed : reportWritten settings ≠ (none, reportMessage (.error error)) := fun same =>
        absurd (congrArg (fun entry => entry.2.message) same :
          "Batch report written" = "Failed to write batch report") (by decide)
      simp [failed]
    | ok path =>
      obtain ⟨rfl, -⟩ := closed.written path rfl
      simp [reportWritten]

/-- The records of a batch are all kept exactly when their keys differ and none of them is the name
of a report that was written. -/
theorem records_kept_iff (around : Surroundings σ) (settings : BatchSettings) (names : List String)
    (turns : List Nat) {world last : World σ} {results : BatchResults}
    (completed : (run (World.workplace around settings.outputDirectory turns) settings names).run
      world = (.ok results, last)) :
    ∃ visits fresh,
      Attempted settings.outputDirectory names world.room last.room results.outcomes visits ∧
      last.told = world.told ++ fresh ∧
      (RecordsKept visits last.room.files ↔
        (results.outcomes.filterMap Outcome.key?).Nodup ∧
          (reportWritten settings ∈ fresh →
            reportKey ∉ results.outcomes.filterMap Outcome.key?)) := by
  have allowed : BatchSettings.allowsThreads settings.threads = true := by
    by_contra refused
    rw [run, if_pos (by simpa using refused)] at completed
    cases completed
  obtain ⟨same, begun, ended, order, reported?, result, started, fetched, files, serial, closed⟩ :=
    run_completes around settings names turns world allowed
  rw [completed] at result closed
  cases result
  obtain ⟨within, told, -, attributed⟩ := serial.told
  obtain ⟨attempted, left⟩ := serial.attempted
  have named : ∀ entry ∈ within, entry.1 ≠ none := by
    intro entry member unnamed
    obtain ⟨outcome, -, same⟩ := attributed entry member
    cases unnamed.symm.trans same
  have reported := reportWritten_mem_iff closed names.length within named
  refine ⟨_, (none, startMessage settings names.length) :: within ++
      ((reported?.toList.map reportMessage) ++ [doneMessage results]).map (none, ·),
    ⟨attempted.whole, attempted.ended, ?_, attempted.sound⟩, ?_, ?_⟩
  · rw [closed.fetched, attempted.fetched, fetched]
  · rw [closed.told, told, started]
    simp only [List.append_assoc, List.cons_append, List.nil_append]
  · rw [reported, attempted.keys.nodup_iff, attempted.keys.mem_iff]
    constructor
    · intro kept
      have distinct := (Visit.paths_nodup_iff attempted.sound).mp kept.apart
      refine ⟨distinct, ?_⟩
      rintro ⟨path, written⟩
      obtain ⟨rfl, startedAt, milliseconds, changed⟩ := closed.written path written
      have before := attempted.kept left (attempted.keys.nodup_iff.mpr distinct)
      rw [changed] at kept
      exact (before.put_report_iff attempted.sound results startedAt milliseconds).mp kept
    · rintro ⟨distinct, absent⟩
      have before := attempted.kept left (attempted.keys.nodup_iff.mpr distinct)
      by_cases written : ∃ path, reported? = some (.ok path)
      · obtain ⟨path, same⟩ := written
        obtain ⟨rfl, startedAt, milliseconds, changed⟩ := closed.written path same
        rw [changed]
        exact (before.put_report_iff attempted.sound results startedAt milliseconds).mpr
          (absent ⟨_, same⟩)
      · rw [closed.unwritten fun path same => written ⟨path, same⟩]
        exact before

def twins (className : String) : Fetched :=
  .source (if className = "A" then "public class Same {}" else "public class SAME {}").toList

theorem twins_share_a_path :
    ((run (World.workplace (Surroundings.steady id twins (fun _ => none) (fun _ => none) (pure 0))
      "out" []) { outputDirectory := "out" } ["A", "B"]).run
        (⟨⟨(), [], fun _ => none⟩, []⟩ : World Unit)).1.toOption.map
          (fun results => results.outcomes.map Outcome.path?) =
      some [some "out/same.json", some "out/same.json"] := by
  decide +kernel

/-- Two sources whose classes have different names. -/
def strangers (className : String) : Fetched :=
  .source (if className = "A" then "public class One {}" else "public class Two {}").toList

/-- How a batch of two workers ends that also writes its report. -/
def strangersEnd : Except BatchError BatchResults × World Unit :=
  (run (World.workplace (Surroundings.steady id strangers (fun _ => none) (fun _ => none) (pure 0))
    "out" [1, 0, 1]) { outputDirectory := "out", threads := 2, writesReport := true }
      ["A", "B"]).run ⟨⟨(), [], fun _ => none⟩, []⟩

theorem strangers_kept :
    ∃ results visits, strangersEnd.1 = .ok results ∧
      Attempted "out" ["A", "B"] ⟨(), [], fun _ => none⟩ strangersEnd.2.room results.outcomes
        visits ∧
      RecordsKept visits strangersEnd.2.room.files := by
  let results : BatchResults :=
    { outcomes := [⟨0, "A", .done "one" "out/one.json"⟩, ⟨1, "B", .done "two" "out/two.json"⟩]
      threads := 2 }
  have completed : strangersEnd.1 = .ok results := by decide +kernel
  have whole := (Prod.eta strangersEnd).symm
  rw [completed] at whole
  obtain ⟨visits, fresh, attempted, -, kept⟩ := records_kept_iff
    (Surroundings.steady id strangers (fun _ => none) (fun _ => none) (pure 0))
    { outputDirectory := "out", threads := 2, writesReport := true } ["A", "B"] [1, 0, 1]
    (strangersEnd.eq_1.symm.trans whole)
  exact ⟨results, visits, completed, attempted, kept.mpr ⟨by decide, fun _ => by decide⟩⟩

end Batch
end QuestRecords
