import QuestRecords.Proofs.Batch.Office
import QuestRecords.Proofs.Diagnostics.Reported

/-! What the report tells of skipped quests. The error that ends an attempt is raised behind all
its warnings, so it is shown unless the limit of its name was reached before it. -/
namespace QuestRecords

variable {σ : Type}

theorem Failure.event_isError (failure : Failure) :
    failure.event.isError = true ∧ failure.event.code = failure.code := by
  cases failure with
  | failed error => exact ⟨rfl, rfl⟩
  | breakdown stage => exact ⟨rfl, rfl⟩

theorem mem_of_mem_eventsFor {input : InputContext} {event : Event}
    {told : List (Option InputContext × Event)} (member : event ∈ eventsFor input told) :
    (some input, event) ∈ told := by
  obtain ⟨⟨input?, other⟩, listed, same⟩ := List.mem_filterMap.mp member
  obtain ⟨rfl, same⟩ := Option.ite_none_right_eq_some.mp same
  cases same
  exact listed

/-- For a quest that was skipped, its failure was told. -/
theorem Serialised.exists_failure {around : Surroundings σ} {directory : String}
    {names : List String} {before behind : World σ} {outcomes : List Outcome}
    {order : List (String × Nat)}
    (serial : Serialised around directory names before behind outcomes order) {outcome : Outcome}
    (made : outcome ∈ outcomes) (skipped : outcome.isDone = false) : ∃ failure : Failure,
      outcome.ending = .skipped failure.stage failure.code failure.message ∧
        (some outcome.input, failure.event) ∈ behind.told := by
  obtain ⟨fresh, told, toldFor, -⟩ := serial.told
  obtain ⟨visited, member, same⟩ := List.mem_map.mp (serial.placed.subset made)
  obtain ⟨entry, -, met, whole⟩ := Room.visitAll_met around directory order _ _ member
  let attempt := ((Attempt.run Batch.enteringMessage (Room.workplace around directory).fetcher
    (Room.workplace around directory).output entry.1).run met).1
  have ended : outcome = Outcome.ofResult entry.2 entry.1 attempt.result :=
    same.symm.trans (congrArg Prod.fst whole)
  have events : eventsFor outcome.input fresh = Batch.eventsOf attempt := by
    rw [← same, toldFor visited member, whole]
    rfl
  cases result : attempt.result with
  | ok written =>
    rw [ended, result] at skipped
    cases skipped
  | error failure =>
    refine ⟨failure, by rw [ended, result]; rfl, ?_⟩
    have last : failure.event ∈ eventsFor outcome.input fresh := by
      rw [events, Batch.eventsOf, result]
      exact List.mem_append_right _ List.mem_cons_self
    rw [told]
    exact List.mem_append_right _ (mem_of_mem_eventsFor last)

namespace Batch

/-- Of every quest that was skipped the report shows the error, with its code and below the name of
the quest, unless as many errors and warnings as are kept for one name were raised under its name
before that error. -/
theorem skips_reported (around : Surroundings σ) (settings : BatchSettings) (names : List String)
    (turns : List Nat) (room : Room σ) (journal : Journal)
    (allowed : BatchSettings.allowsThreads settings.threads = true) (idle : journal.input = none)
    (cleared : journal.collector.events = ∅) :
    let told := ((run (World.workplace around settings.outputDirectory turns) settings names).run
      ⟨room, []⟩).2.told
    let last := (run (Office.workplace around settings.outputDirectory turns) settings names).run
      ⟨room, journal⟩
    let collector := last.2.journal.collector
    let summary := collector.summary
    ∃ results, last.1 = .ok results ∧ ∀ outcome ∈ results.outcomes, outcome.isDone = false →
      ∃ (failure : Failure) (before after : List Event),
        outcome.ending = .skipped failure.stage failure.code failure.message ∧
        let event := Journal.prepared journal.namesInput outcome.input failure.event
        Journal.raisedUnder journal.namesInput outcome.name told = before ++ event :: after ∧
        event.code = failure.code ∧
        if before.length < Collector.eventLimit then
          (∃ earlier later, collector.errorsOf outcome.name = earlier ++ event :: later ∧
            (printed (("Extracting " ++ outcome.name ++ "...") ::
              (earlier.flatMap Event.errorLines ++
                ["error[" ++ failure.code.text ++ "]: " ++ event.message]))).toList <:+:
              collector.report.toList) ∧
          0 < summary.errors ∧
          ∃ body, collector.report = body ++ (toString summary.errors ++ " error(s), " ++
            toString summary.warnings ++ " warning(s) across " ++
            toString (summary.withErrors + summary.withWarnings) ++ " quest(s)")
        else collector.eventsOf outcome.name =
          before.take Collector.eventLimit ++ [Collector.limitWarning] := by
  intro told last collector summary
  have agreed := (Office.workplace_agree journal.namesInput around settings.outputDirectory
    turns).run settings names ⟨room, []⟩ ⟨room, journal⟩ ⟨rfl, .start idle cleared⟩
  obtain ⟨same, beside⟩ := agreed
  obtain ⟨results, begun, ended, order, reported?, result, -, -, -, serial, closed⟩ :=
    run_completes around settings names turns ⟨room, []⟩ allowed
  refine ⟨results, same.symm.trans result, fun outcome made skipped => ?_⟩
  obtain ⟨failure, ending, event⟩ := serial.exists_failure made skipped
  have member : (some outcome.input, failure.event) ∈ told := by
    rw [show told = _ from closed.told]
    exact List.mem_append_left _ event
  obtain ⟨error, code⟩ := failure.event_isError
  obtain ⟨before, after, raised⟩ := Journal.exists_raisedUnder journal.namesInput error member
  have coded := (Journal.prepared_code journal.namesInput outcome.input failure.event).trans code
  refine ⟨failure, before, after, ending, raised, coded, ?_⟩
  have kept : collector.eventsOf outcome.name = Collector.cut (before ++ _ :: after) :=
    (beside.told.eventsOf outcome.name).trans (congrArg Collector.cut raised)
  split
  · rename_i room
    have shown : Journal.prepared journal.namesInput outcome.input failure.event ∈
        collector.errorsOf outcome.name := by
      rw [Collector.errorsOf, kept]
      refine List.mem_filter.mpr ⟨Collector.mem_cut room _ _, ?_⟩
      rw [Journal.prepared_isError]
      exact error
    obtain ⟨earlier, later, parted⟩ := List.append_of_mem shown
    obtain ⟨printed, counted⟩ := Collector.report_shows beside.told.ascending parted
    rw [coded] at printed
    exact ⟨⟨earlier, later, parted, printed⟩, counted⟩
  · rename_i full
    exact kept.trans (Collector.cut_of_full (Nat.not_lt.mp full) _ _)

/-- A fetcher that breaks down, and a journal in which nothing was entered. -/
theorem skips_reported_breakdown :
    let around : Surroundings Unit :=
      .steady id (fun _ => .brokeDown) (fun _ => none) (fun _ => none) (pure 0)
    let last := (run (Office.workplace around "out" []) { outputDirectory := "out" } ["A"]).run
      ⟨⟨(), [], fun _ => none⟩, {}⟩
    let collector := last.2.journal.collector
    BatchSettings.allowsThreads 1 = true ∧
    (∃ results, last.1 = .ok results ∧
      results.outcomes.map Outcome.ending =
        [.skipped .fetching .internalError "panicked while fetching"] ∧
      ∀ outcome ∈ results.outcomes, ∃ (failure : Failure) (event : Event),
        outcome.ending = .skipped failure.stage failure.code failure.message ∧
        event.code = failure.code ∧ event ∈ collector.errorsOf outcome.name ∧
        0 < collector.summary.errors) ∧
    collector.report = "Extracting A...\n" ++
      "error[ERR001]: Skipping quest after a panic\n" ++
      "  = severity: Critical, category: System\n" ++
      "  |\n" ++
      "  = stage: fetching\n" ++
      "  = help: File a bug report with the failing quest source attached\n" ++
      "\n" ++
      "1 error(s), 0 warning(s) across 1 quest(s)" := by
  intro around last collector
  obtain ⟨results, completed, shown⟩ := skips_reported around { outputDirectory := "out" } ["A"] []
    ⟨(), [], fun _ => none⟩ {} (by decide) rfl rfl
  have skipped : (last.1.map fun results => results.outcomes.map Outcome.ending) =
      .ok [.skipped .fetching .internalError "panicked while fetching"] := by
    decide +kernel
  rw [show last.1 = .ok results from completed] at skipped
  have alone : results.outcomes.map Outcome.ending = _ := Except.ok.inj skipped
  refine ⟨by decide, ⟨results, completed, alone, fun outcome made => ?_⟩, by decide +kernel⟩
  have ended : outcome.ending ∈ results.outcomes.map Outcome.ending := List.mem_map_of_mem made
  rw [alone] at ended
  have isDone : outcome.isDone = false := by rw [Outcome.isDone, List.mem_singleton.mp ended]
  obtain ⟨failure, before, after, ending, raised, code, kept⟩ := shown outcome made isDone
  have few : ((run (World.workplace around "out" []) { outputDirectory := "out" } ["A"]).run
      ⟨⟨(), [], fun _ => none⟩, []⟩).2.told.length < Collector.eventLimit := by decide +kernel
  have early : before.length < Collector.eventLimit :=
    (Journal.length_le_of_raisedUnder raised).trans_lt few
  rw [if_pos early] at kept
  obtain ⟨⟨earlier, later, parted, -⟩, counted, -⟩ := kept
  have member : _ ∈ collector.errorsOf outcome.name :=
    parted ▸ List.mem_append_right earlier List.mem_cons_self
  exact ⟨failure, _, ending, code, member, counted⟩

/-- A panel that refers to a hundred steps of which there is none. -/
def floodedSource : Text :=
  "List<PanelDetails> getPanels()\x7bnew PanelDetails(\"\",Arrays.asList(".toList ++
    (List.replicate 99 ['a', ',']).flatten ++ "a))\x7d".toList

/-- The warnings on those references leave no room for the error that the record could not be
written. -/
theorem flooded_skip_unreported :
    let around := Surroundings.steady id (fun _ => .source floodedSource)
      (fun _ => some .alreadyExists) (fun _ => none) (pure 0)
    let last := (run (Office.workplace around "out" []) { outputDirectory := "out" }
      ["Flood"]).run (⟨⟨(), [], fun _ => none⟩, {}⟩ : Office Unit)
    let error := PersistError.outputDirectory "out" .alreadyExists
    last.1 = .ok ⟨[⟨0, "Flood", .skipped .writing error.code
        ("Writing record flood failed: " ++ error.message)⟩], 1⟩ ∧
      last.2.journal.collector.errorsOf "Flood" = [] ∧
      last.2.journal.collector.summary.errors = 0 := by
  decide +kernel

end Batch
end QuestRecords
