import QuestRecords.Proofs.Diagnostics.Printed

/-! What a report tells of the events kept. It has a section for each name under which an error or a
warning is kept, by the order of the names, and a section prints each of them. Its closing line is
counted apart from the sections, quest by quest, and comes to the same numbers. -/
namespace QuestRecords

namespace Collector

theorem cut_eq (events : List Event) : cut events =
    events.take eventLimit ++ if eventLimit < events.length then [limitWarning] else [] := by
  by_cases many : eventLimit < events.length
  · rw [cut, if_neg (Nat.not_le.mpr many), if_pos many]
  · have few := Nat.not_lt.mp many
    rw [cut, if_pos few, if_neg many, List.take_of_length_le few, List.append_nil]

theorem total_one (values : List α) : total (fun _ => 1) values = values.length := by
  induction values with
  | nil => rfl
  | cons value values ih => rw [total_cons, ih, List.length_cons, Nat.add_comm]

theorem countP_flatMap_of_single {lines : α → List String} {counted : String → Bool}
    {single : α → Bool}
    (each : ∀ value, (lines value).countP counted = if single value then 1 else 0)
    (values : List α) : (values.flatMap lines).countP counted = values.countP single := by
  induction values with
  | nil => rfl
  | cons value values ih =>
    rw [List.flatMap_cons, List.countP_append, ih, each, List.countP_cons, Nat.add_comm]

theorem countP_flatMap_eq_total (lines : α → List String) (counted : String → Bool)
    (values : List α) : (values.flatMap lines).countP counted =
      total (fun value => (lines value).countP counted) values := by
  induction values with
  | nil => rfl
  | cons value values ih => rw [List.flatMap_cons, List.countP_append, ih, total_cons]

/-- What a report shows of a name: the errors and the warnings that are kept under it. -/
structure Section where
  name : String
  errors : List Event
  warnings : List Event

namespace Section

def lines (shown : Section) : List String :=
  ("Extracting " ++ shown.name ++ "...") ::
    (shown.errors.flatMap Event.errorLines ++ shown.warnings.flatMap Event.warningLines ++ [""])

/-- The section of a name with its events, unless it has neither errors nor warnings. -/
def ofEvents? (entry : String × List Event) : Option Section :=
  let errors := entry.2.filter Event.isError
  let warnings := entry.2.filter Event.isWarning
  if errors.isEmpty ∧ warnings.isEmpty then none else some ⟨entry.1, errors, warnings⟩

theorem countP_lines {beginning : String} {first : Char}
    (head : beginning.toList.head? = some first) (indented : first ≠ ' ') (shown : Section) :
    shown.lines.countP (beginsWith beginning) =
      (if beginsWith beginning ("Extracting " ++ shown.name ++ "...") then 1 else 0) +
        shown.errors.countP (fun event =>
          beginsWith beginning ("error[" ++ event.code.text ++ "]: " ++ event.message)) +
        shown.warnings.countP fun event =>
          beginsWith beginning ("warning[" ++ event.code.text ++ "]: " ++ event.message) := by
  have empty : [""].countP (beginsWith beginning) = 0 := by
    rw [List.countP_singleton, beginsWith_of_head head (by simp), if_neg Bool.false_ne_true]
  rw [lines, List.countP_cons, List.countP_append, List.countP_append, empty,
    countP_flatMap_of_single (Event.countP_errorLines head indented),
    countP_flatMap_of_single (Event.countP_warningLines head indented)]
  omega

theorem countP_headers (shown : Section) :
    shown.lines.countP (beginsWith "Extracting ") = 1 := by
  rw [countP_lines (show "Extracting ".toList.head? = some 'E' from rfl) (by decide)]
  simp [beginsWith, List.isPrefixOf]

theorem countP_errors (shown : Section) :
    shown.lines.countP (beginsWith "error[") = shown.errors.length := by
  rw [countP_lines (show "error[".toList.head? = some 'e' from rfl) (by decide)]
  simp [beginsWith, List.isPrefixOf]

theorem countP_warnings (shown : Section) :
    shown.lines.countP (beginsWith "warning[") = shown.warnings.length := by
  rw [countP_lines (show "warning[".toList.head? = some 'w' from rfl) (by decide)]
  simp [beginsWith, List.isPrefixOf]

variable {entry : String × List Event} {shown : Section}

theorem unbroken_lines (name : Unbroken shown.name)
    (errors : ∀ event ∈ shown.errors, event.UnbrokenTexts)
    (warnings : ∀ event ∈ shown.warnings, event.UnbrokenTexts) :
    ∀ line ∈ shown.lines, Unbroken line := by
  simp only [lines, List.forall_mem_cons, List.forall_mem_append, List.forall_mem_flatMap]
  refine ⟨?_, ⟨fun event member => (errors event member).errorLines,
    fun event member => (warnings event member).warningLines⟩, by decide, nofun⟩
  simp only [unbroken_append]
  exact ⟨⟨by decide, name⟩, by decide⟩

theorem ofEvents?_eq_none_iff :
    ofEvents? entry = none ↔ errorCount entry.2 = 0 ∧ warningCount entry.2 = 0 := by
  simp [ofEvents?, errorCount, warningCount]

theorem ofEvents?_eq_some_iff : ofEvents? entry = some shown ↔
    shown = ⟨entry.1, entry.2.filter Event.isError, entry.2.filter Event.isWarning⟩ ∧
      (0 < errorCount entry.2 ∨ 0 < warningCount entry.2) := by
  have filled : 0 < errorCount entry.2 ∨ 0 < warningCount entry.2 ↔ ofEvents? entry ≠ none := by
    rw [Ne, ofEvents?_eq_none_iff]
    omega
  rw [filled, ofEvents?]
  split
  · simp
  · simp [eq_comm]

end Section

def sections (collector : Collector) : List Section :=
  collector.events.entries.filterMap Section.ofEvents?

theorem section?_eq (entry : String × List Event) : section? entry =
    (Section.ofEvents? entry).map fun shown => printed shown.lines := by
  rw [section?, Section.ofEvents?]
  split
  · rfl
  · rw [Option.map_some, Section.lines, printed_cons, printed_append, printed_append,
      printed_flatMap, printed_flatMap, ← funext errorBlock_eq, ← funext warningBlock_eq]
    simp only [String.append_assoc]
    rfl

/-- A report is what its sections print, and the closing line. -/
theorem report_eq (collector : Collector) : collector.report =
    printed (collector.sections.flatMap Section.lines) ++ closingLine collector.summary := by
  rw [report, sections, printed_flatMap, List.map_filterMap, funext section?_eq]

/-- The sections come by the names of the table. -/
theorem pairwise_sections {collector : Collector} (ascending : collector.events.Ascending) :
    collector.sections.Pairwise (·.name < ·.name) := by
  refine List.Pairwise.filterMap _ ?_ ascending
  intro first second before one found other found'
  obtain ⟨rfl, -⟩ := Section.ofEvents?_eq_some_iff.mp found
  obtain ⟨rfl, -⟩ := Section.ofEvents?_eq_some_iff.mp found'
  exact before

/-- A name has a section exactly when an error or a warning is kept under it, and the section holds
all of these. -/
theorem mem_sections_iff {collector : Collector} (ascending : collector.events.Ascending)
    {shown : Section} : shown ∈ collector.sections ↔
      shown = ⟨shown.name, (collector.eventsOf shown.name).filter Event.isError,
        (collector.eventsOf shown.name).filter Event.isWarning⟩ ∧
      (0 < errorCount (collector.eventsOf shown.name) ∨
        0 < warningCount (collector.eventsOf shown.name)) := by
  rw [sections, List.mem_filterMap]
  constructor
  · rintro ⟨⟨name, events⟩, entry, found⟩
    have kept : collector.events.get? name = some events := (ascending.mem_iff _).mp entry
    obtain ⟨rfl, filled⟩ := Section.ofEvents?_eq_some_iff.mp found
    rw [eventsOf, kept]
    exact ⟨rfl, filled⟩
  · rintro ⟨same, filled⟩
    refine ⟨(shown.name, collector.eventsOf shown.name), ?_,
      Section.ofEvents?_eq_some_iff.mpr ⟨same, filled⟩⟩
    rw [ascending.mem_iff, eventsOf]
    cases kept : collector.events.get? shown.name with
    | none =>
      -- Under a name that the table lacks there is nothing to count.
      rw [eventsOf, kept] at filled
      cases filled <;> contradiction
    | some events => rfl

theorem mem_names_sections_iff {collector : Collector} (ascending : collector.events.Ascending)
    {name : String} : name ∈ collector.sections.map Section.name ↔
      ∃ event ∈ collector.eventsOf name, event.isError ∨ event.isWarning := by
  have filled : (0 < errorCount (collector.eventsOf name) ∨
      0 < warningCount (collector.eventsOf name)) ↔
        ∃ event ∈ collector.eventsOf name, event.isError ∨ event.isWarning := by
    simp only [errorCount, warningCount, List.countP_pos_iff, and_or_left, exists_or]
  rw [← filled, List.mem_map]
  constructor
  · rintro ⟨shown, member, rfl⟩
    exact ((mem_sections_iff ascending).mp member).2
  · intro some
    have listed : ⟨name, (collector.eventsOf name).filter Event.isError,
        (collector.eventsOf name).filter Event.isWarning⟩ ∈ collector.sections :=
      (mem_sections_iff ascending).mpr ⟨rfl, some⟩
    exact ⟨_, listed, rfl⟩

/-- A count over all entries is one over the sections, if it finds nothing in an entry without one. -/
theorem total_sections {count : List Event → Nat} {shownCount : Section → Nat}
    (missing : ∀ entry, Section.ofEvents? entry = none → count entry.2 = 0)
    (found : ∀ entry shown, Section.ofEvents? entry = some shown → count entry.2 = shownCount shown)
    (entries : List (String × List Event)) :
    total count (entries.map (·.2)) = total shownCount (entries.filterMap Section.ofEvents?) := by
  induction entries with
  | nil => rfl
  | cons entry entries ih =>
    rw [List.map_cons, total_cons, ih, List.filterMap_cons]
    cases shown? : Section.ofEvents? entry with
    | none => rw [missing entry shown?, Nat.zero_add]
    | some shown => rw [found entry shown shown?, total_cons]

/-- A name counts once, among those with errors or else among those with warnings. -/
theorem count_sections (entries : List (String × List Event)) :
    (entries.map (·.2)).countP (fun events => 0 < errorCount events) +
        (entries.map (·.2)).countP (fun events => errorCount events = 0 ∧ 0 < warningCount events) =
      (entries.filterMap Section.ofEvents?).length := by
  induction entries with
  | nil => rfl
  | cons entry entries ih =>
    rw [List.map_cons, List.countP_cons, List.countP_cons, List.filterMap_cons]
    cases shown? : Section.ofEvents? entry with
    | none =>
      obtain ⟨noErrors, noWarnings⟩ := Section.ofEvents?_eq_none_iff.mp shown?
      rw [← ih]
      simp [noErrors, noWarnings]
    | some shown =>
      obtain ⟨-, filled⟩ := Section.ofEvents?_eq_some_iff.mp shown?
      rw [List.length_cons, ← ih]
      by_cases errors : 0 < errorCount entry.2
      · simp [errors, errors.ne', Nat.add_right_comm]
      · have none : errorCount entry.2 = 0 := Nat.eq_zero_of_not_pos errors
        have warnings := filled.resolve_left errors
        simp [none, warnings, Nat.add_assoc]

/-- What the closing line counts quest by quest is what the sections hold. -/
theorem summary_sections (collector : Collector) :
    collector.summary.errors = total (·.errors.length) collector.sections ∧
    collector.summary.warnings = total (·.warnings.length) collector.sections ∧
    collector.summary.withErrors + collector.summary.withWarnings = collector.sections.length := by
  refine ⟨total_sections ?_ ?_ _, total_sections ?_ ?_ _, count_sections _⟩
  · exact fun entry missing => (Section.ofEvents?_eq_none_iff.mp missing).1
  · intro entry shown found
    obtain ⟨rfl, -⟩ := Section.ofEvents?_eq_some_iff.mp found
    exact List.countP_eq_length_filter
  · exact fun entry missing => (Section.ofEvents?_eq_none_iff.mp missing).2
  · intro entry shown found
    obtain ⟨rfl, -⟩ := Section.ofEvents?_eq_some_iff.mp found
    exact List.countP_eq_length_filter

theorem sections_eq_nil_iff (collector : Collector) :
    collector.sections = [] ↔ collector.summary.errors = 0 ∧ collector.summary.warnings = 0 := by
  obtain ⟨errors, warnings, -⟩ := summary_sections collector
  rw [errors, warnings]
  constructor
  · intro none
    rw [none]
    exact ⟨rfl, rfl⟩
  · rintro ⟨noErrors, noWarnings⟩
    refine List.eq_nil_iff_forall_not_mem.mpr fun shown member => ?_
    obtain ⟨entry, -, found⟩ := List.mem_filterMap.mp member
    obtain ⟨rfl, filled⟩ := Section.ofEvents?_eq_some_iff.mp found
    have fewErrors := le_total member (·.errors.length)
    have fewWarnings := le_total member (·.warnings.length)
    rw [errorCount, List.countP_eq_length_filter, warningCount, List.countP_eq_length_filter] at filled
    simp only at fewErrors fewWarnings
    omega

theorem exists_digit (count : Nat) (rest : String) :
    ∃ digit : Char, digit.isDigit = true ∧ (toString count ++ rest).toList.head? = some digit := by
  rw [String.toList_append, show (toString count).toList = Nat.toDigits 10 count from
    Nat.toList_repr]
  cases digits : Nat.toDigits 10 count with
  | nil => exact absurd digits Nat.toDigits_ne_nil
  | cons digit others =>
    exact ⟨digit, Nat.isDigit_of_mem_toDigits (by decide) (Nat.le_refl 10)
      (digits ▸ List.mem_cons_self), rfl⟩

theorem closingLine_head (summary : Summary) :
    if summary.errors = 0 ∧ summary.warnings = 0 then
      closingLine summary = "No errors or warnings collected"
    else ∃ digit : Char, digit.isDigit = true ∧
      (closingLine summary).toList.head? = some digit := by
  rw [closingLine]
  split
  · rfl
  · rw [String.append_assoc, String.append_assoc, String.append_assoc, String.append_assoc]
    exact exists_digit _ _

theorem closingLine_eq_iff (summary : Summary) :
    closingLine summary = "No errors or warnings collected" ↔
      summary.errors = 0 ∧ summary.warnings = 0 := by
  have line := closingLine_head summary
  split at line
  · rename_i none
    exact iff_of_true line none
  · rename_i some
    obtain ⟨digit, isDigit, head⟩ := line
    refine iff_of_false (fun same => ?_) some
    rw [same] at head
    cases head
    exact absurd isDigit (by decide)

theorem unbroken_closingLine (summary : Summary) : Unbroken (closingLine summary) := by
  have number (count : Nat) : Unbroken (toString count) := by
    rw [Unbroken, show (toString count).toList = Nat.toDigits 10 count from Nat.toList_repr]
    intro member
    exact absurd (Nat.isDigit_of_mem_toDigits (by decide) (Nat.le_refl 10) member) (by decide)
  rw [closingLine]
  split
  · exact unbroken_ofList (by decide)
  · simp only [unbroken_append]
    exact ⟨⟨⟨⟨⟨number _, by decide⟩, number _⟩, by decide⟩, number _⟩, by decide⟩

theorem infix_printed {first last : List String} (part : first <:+: last) :
    (printed first).toList <:+: (printed last).toList := by
  obtain ⟨before, behind, rfl⟩ := part
  simp only [printed_append, String.toList_append]
  exact List.infix_append ..

/-- An error kept under a name is shown with its code behind the header of the name, and counted. -/
theorem report_shows {collector : Collector} (ascending : collector.events.Ascending)
    {name : String} {earlier later : List Event} {event : Event}
    (kept : collector.errorsOf name = earlier ++ event :: later) :
    (printed (("Extracting " ++ name ++ "...") :: (earlier.flatMap Event.errorLines ++
      ["error[" ++ event.code.text ++ "]: " ++ event.message]))).toList <:+:
        collector.report.toList ∧
    0 < collector.summary.errors ∧
    ∃ body, collector.report = body ++ (toString collector.summary.errors ++ " error(s), " ++
      toString collector.summary.warnings ++ " warning(s) across " ++
      toString (collector.summary.withErrors + collector.summary.withWarnings) ++ " quest(s)") := by
  let shown : Section := ⟨name, (collector.eventsOf name).filter Event.isError,
    (collector.eventsOf name).filter Event.isWarning⟩
  have errors : shown.errors = earlier ++ event :: later := kept
  have some : 0 < shown.errors.length := by
    rw [errors, List.length_append, List.length_cons]
    omega
  have member : shown ∈ collector.sections := by
    refine (mem_sections_iff ascending).mpr ⟨rfl, .inl ?_⟩
    rwa [errorCount, List.countP_eq_length_filter]
  have counted : 0 < collector.summary.errors := by
    rw [(summary_sections collector).1]
    exact some.trans_le (le_total member (·.errors.length))
  refine ⟨?_, counted, _, (report_eq collector).trans (congrArg _ (if_neg ?_))⟩
  · have begins : ("Extracting " ++ name ++ "...") :: (earlier.flatMap Event.errorLines ++
        ["error[" ++ event.code.text ++ "]: " ++ event.message]) <+: shown.lines := by
      rw [Section.lines, errors, List.flatMap_append, List.flatMap_cons, Event.errorLines]
      simp [shown]
    have inside := begins.isInfix.trans
      (List.infix_of_mem_flatten (List.mem_map_of_mem (f := Section.lines) member))
    rw [← List.flatMap_def] at inside
    rw [report_eq, String.toList_append]
    exact (infix_printed inside).trans (List.prefix_append _ _).isInfix
  · exact fun none => counted.ne' none.1

section

variable {inputs : SortedTable Nat} {recorded : List (String × Event)}

/-- Lines end in a report where lines were printed, if none ends within a text that was recorded. -/
theorem unbroken_sections
    (unbroken : ∀ entry ∈ recorded, Unbroken entry.1 ∧ entry.2.UnbrokenTexts) :
    ∀ line ∈ (recordAll { inputs } recorded).sections.flatMap Section.lines, Unbroken line := by
  have kept {name : String} {event : Event}
      (member : event ∈ (recordAll { inputs } recorded).eventsOf name) : event.UnbrokenTexts := by
    rw [eventsOf_recordAll] at member
    rcases mem_or_eq_of_mem_cut member with early | rfl
    · exact (unbroken _ (mem_recordedFor_iff.mp early)).2
    · exact ⟨by decide, by decide, nofun⟩
  have ascending : (recordAll { inputs } recorded).events.Ascending :=
    ascending_recordAll .empty recorded
  refine List.forall_mem_flatMap.mpr fun shown member => ?_
  obtain ⟨same, -⟩ := (mem_sections_iff ascending).mp member
  have named : Unbroken shown.name := by
    have listed := List.mem_map_of_mem (f := Section.name) member
    obtain ⟨event, member, -⟩ := (mem_names_sections_iff ascending).mp listed
    rw [eventsOf_recordAll] at member
    -- The name was recorded, since nothing is kept under another.
    cases recordedUnder : recordedFor shown.name recorded with
    | nil =>
      rw [recordedUnder] at member
      cases member
    | cons first others =>
      have told : first ∈ recordedFor shown.name recorded := recordedUnder ▸ List.mem_cons_self
      exact (unbroken _ (mem_recordedFor_iff.mp told)).1
  rw [same]
  exact Section.unbroken_lines named (fun event member => kept (List.mem_of_mem_filter member))
    fun event member => kept (List.mem_of_mem_filter member)

/-- The lines of a report with a beginning that no closing line has are those of its sections. -/
theorem countP_report (unbroken : ∀ entry ∈ recorded, Unbroken entry.1 ∧ entry.2.UnbrokenTexts)
    {beginning : String} {first : Char} (head : beginning.toList.head? = some first)
    (letter : first ≠ 'N' ∧ first.isDigit = false) :
    let collector := recordAll { inputs } recorded
    (linesOf collector.report).countP (beginsWith beginning) =
      total (fun shown => shown.lines.countP (beginsWith beginning)) collector.sections := by
  intro collector
  have line := closingLine_head collector.summary
  have closing : beginsWith beginning (closingLine collector.summary) = false := by
    refine beginsWith_of_head head fun same => ?_
    split at line
    · rw [line] at same
      cases same
      exact letter.1 rfl
    · obtain ⟨digit, isDigit, begins⟩ := line
      cases begins.symm.trans same
      exact Bool.false_ne_true (letter.2.symm.trans isDigit)
  rw [report_eq, linesOf_printed (unbroken_sections unbroken) (unbroken_closingLine _),
    List.countP_append, List.countP_singleton, closing, if_neg Bool.false_ne_true]
  exact countP_flatMap_eq_total _ _ _

end

/-- Under a name its first events are kept, and one warning stands for all beyond the limit. The
report has one section for each name with an error or a warning, in the order of the names, and in it
the lines of each of them. The closing line has the numbers of sections, errors and warnings, and says
instead that there is nothing exactly when there is no section. These are also the numbers of lines
that begin as the header of a section, an error and a warning do, if no text recorded has an end of
line in it. -/
theorem report_adds_up (inputs : SortedTable Nat) (recorded : List (String × Event)) :
    let collector := recordAll { inputs } recorded
    let sections := collector.sections
    let closing := closingLine collector.summary
    (∀ name, collector.eventsOf name = (recordedFor name recorded).take eventLimit ++
      if eventLimit < (recordedFor name recorded).length then [limitWarning] else []) ∧
    collector.report = printed (sections.flatMap fun shown =>
      ("Extracting " ++ shown.name ++ "...") :: (shown.errors.flatMap Event.errorLines ++
        shown.warnings.flatMap Event.warningLines ++ [""])) ++ closing ∧
    (sections.map Section.name).Pairwise (· < ·) ∧
    (∀ name, name ∈ sections.map Section.name ↔
      ∃ event ∈ collector.eventsOf name, event.isError ∨ event.isWarning) ∧
    (∀ shown ∈ sections,
      shown.errors = (collector.eventsOf shown.name).filter Event.isError ∧
      shown.warnings = (collector.eventsOf shown.name).filter Event.isWarning) ∧
    (sections ≠ [] → closing =
      toString (total (·.errors.length) sections) ++ " error(s), " ++
      toString (total (·.warnings.length) sections) ++ " warning(s) across " ++
      toString sections.length ++ " quest(s)") ∧
    (closing = "No errors or warnings collected" ↔ sections = []) ∧
    ((∀ entry ∈ recorded, Unbroken entry.1 ∧ entry.2.UnbrokenTexts) →
      (linesOf collector.report).countP (beginsWith "Extracting ") = sections.length ∧
      (linesOf collector.report).countP (beginsWith "error[") =
        total (·.errors.length) sections ∧
      (linesOf collector.report).countP (beginsWith "warning[") =
        total (·.warnings.length) sections) := by
  intro collector sections closing
  have ascending : collector.events.Ascending := ascending_recordAll .empty recorded
  have untold : sections = [] ↔ _ := sections_eq_nil_iff collector
  obtain ⟨errors, warnings, quests⟩ := summary_sections collector
  refine ⟨fun name => ?_, report_eq collector, ?_, fun name => ?_, fun shown member => ?_, ?_, ?_,
    fun unbroken => ⟨?_, ?_, ?_⟩⟩
  · rw [eventsOf_recordAll, cut_eq]
  · exact List.pairwise_map.mpr (pairwise_sections ascending)
  · rw [mem_names_sections_iff ascending]
  · have same := ((mem_sections_iff ascending).mp member).1
    exact ⟨congrArg Section.errors same, congrArg Section.warnings same⟩
  · intro some
    rw [← errors, ← warnings, ← quests]
    exact if_neg (mt untold.mpr some)
  · rw [untold]
    exact closingLine_eq_iff collector.summary
  · rw [countP_report unbroken (show "Extracting ".toList.head? = some 'E' from rfl) (by decide)]
    simp only [Section.countP_headers, total_one]
    rfl
  · rw [countP_report unbroken (show "error[".toList.head? = some 'e' from rfl) (by decide)]
    simp only [Section.countP_errors]
    rfl
  · rw [countP_report unbroken (show "warning[".toList.head? = some 'w' from rfl) (by decide)]
    simp only [Section.countP_warnings]
    rfl

/-- An error of one name, and under another name one warning more than are kept. -/
def flood : List (String × Event) :=
  ("Imp Catcher", .error .timeout "late" [("quest", "Imp Catcher"), ("stage", "fetching")]) ::
    List.replicate 101 ("Flood", .warning .plainWarning "again")

theorem report_adds_up_flood :
    let collector := recordAll {} flood
    collector.eventsOf "Flood" =
      List.replicate 100 (.warning .plainWarning "again") ++ [limitWarning] ∧
    collector.sections.map Section.name = ["Flood", "Imp Catcher"] ∧
    collector.report = "Extracting Flood...\n" ++
      String.join (List.replicate 100 "warning[W000]: again\n") ++
      "warning[W000]: Too many events for quest (limit: 100)\n" ++
      "\n" ++
      "Extracting Imp Catcher...\n" ++
      "error[E103]: late\n" ++
      "  = severity: High, category: Fetch\n" ++
      "  |\n" ++
      "  = stage: fetching\n" ++
      "  = help: Raise the fetch timeout or retry the run\n" ++
      "\n" ++
      "1 error(s), 101 warning(s) across 2 quest(s)" ∧
    (linesOf collector.report).countP (beginsWith "Extracting ") = 2 ∧
    (linesOf collector.report).countP (beginsWith "error[") = 1 ∧
    (linesOf collector.report).countP (beginsWith "warning[") = 101 := by
  intro collector
  obtain ⟨kept, -, -, -, -, -, -, counted⟩ := report_adds_up ∅ flood
  have fallen : recordedFor "Flood" flood = List.replicate 101 (.warning .plainWarning "again") :=
    List.filterMap_replicate_of_some rfl
  have unbroken : ∀ entry ∈ flood, Unbroken entry.1 ∧ entry.2.UnbrokenTexts := by
    refine List.forall_mem_cons.mpr ⟨⟨by decide, by decide, by decide, by decide⟩, ?_⟩
    intro entry member
    rw [List.eq_of_mem_replicate member]
    exact ⟨by decide, by decide, by decide, nofun⟩
  obtain ⟨headers, errors, warnings⟩ := counted unbroken
  refine ⟨?_, by decide +kernel, by decide +kernel, headers.trans ?_, errors.trans ?_,
    warnings.trans ?_⟩
  · rw [kept, fallen, List.take_replicate, List.length_replicate]
    rfl
  all_goals decide +kernel

end Collector
end QuestRecords
