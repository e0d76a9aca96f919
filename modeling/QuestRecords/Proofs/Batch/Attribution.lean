import QuestRecords.Proofs.Batch.Raised
import QuestRecords.Proofs.Batch.Schedule
import QuestRecords.Proofs.Batch.Skips
import QuestRecords.Proofs.Batch.Threads

/-! Events are collected for the quests that they were raised for. In a batch over different names
what is kept under a name is what its one attempt raised, in order and cut at the limit, whatever
turns the threads took. So the report is that of the same attempts made one after the other; which
answers an attempt is given may depend on the turns. -/
namespace QuestRecords

variable {σ : Type} {around : Surroundings σ} {directory : String}

namespace Serialised

variable {names : List String} {before behind : World σ} {outcomes : List Outcome}
variable {order : List (String × Nat)}

theorem input_eq (serial : Serialised around directory names before behind outcomes order)
    (distinct : names.Nodup) {first last : Outcome} (made : first ∈ outcomes)
    (other : last ∈ outcomes) (same : first.name = last.name) : first.input = last.input := by
  have listed {outcome : Outcome} (made : outcome ∈ outcomes) :
      names[outcome.number]? = some outcome.name :=
    List.mk_mem_zipIdx_iff_getElem?.mp (serial.listed ▸ List.mem_map_of_mem (f := Outcome.entry) made)
  have number : first.number = last.number := by
    obtain ⟨inside, -⟩ := List.getElem?_eq_some_iff.mp (listed made)
    exact (List.getElem?_inj inside distinct).mp ((listed made).trans (same ▸ (listed other).symm))
  rw [Outcome.input, Outcome.input, same, number]

/-- What was raised under the name of a quest, when no other quest has that name. -/
theorem raisedUnder (serial : Serialised around directory names before behind outcomes order)
    (distinct : names.Nodup) (namesInput : Bool) {visited : Outcome × List Event}
    (made : visited ∈ ((Room.visitAll around directory order).run before.room).1) :
    Journal.raisedUnder namesInput visited.1.name behind.told =
      Journal.raisedUnder namesInput visited.1.name before.told ++
        Journal.collectedFrom namesInput visited.1.input visited.2 := by
  obtain ⟨fresh, told, toldFor, attributed⟩ := serial.told
  have listed : visited.1 ∈ outcomes :=
    serial.placed.symm.subset (List.mem_map_of_mem (f := Prod.fst) made)
  have sole : ∀ entry ∈ fresh, ∀ other, entry.1 = some other →
      other.name = visited.1.input.name → other = visited.1.input := by
    intro entry member other input same
    obtain ⟨outcome, made, attribution⟩ := attributed entry member
    cases input.symm.trans attribution
    exact serial.input_eq distinct made listed same
  rw [told, Journal.raisedUnder_append, ← toldFor visited made]
  exact congrArg _ (Journal.raisedUnder_eq namesInput sole)

theorem raisedUnder_of_notMem
    (serial : Serialised around directory names before behind outcomes order) (namesInput : Bool)
    {name : String} (absent : name ∉ names) :
    Journal.raisedUnder namesInput name behind.told =
      Journal.raisedUnder namesInput name before.told := by
  obtain ⟨fresh, told, -, attributed⟩ := serial.told
  have silent : ∀ entry ∈ fresh, ∀ other, entry.1 = some other → other.name ≠ name := by
    intro entry member other input same
    obtain ⟨outcome, made, attribution⟩ := attributed entry member
    cases input.symm.trans attribution
    have listed := serial.listed ▸ List.mem_map_of_mem (f := Outcome.entry) made
    exact absent (same ▸ List.fst_mem_of_mem_zipIdx listed)
  rw [told, Journal.raisedUnder_append, Journal.raisedUnder_eq_nil namesInput silent,
    List.append_nil]

/-- Serial attempts were told as if one behind the other, in any order. -/
theorem raisedUnder_eq (serial : Serialised around directory names before behind outcomes order)
    (distinct : names.Nodup) {attempts : List (Outcome × List Event)}
    (same : attempts.Perm ((Room.visitAll around directory order).run before.room).1)
    (namesInput : Bool) (name : String) :
    Journal.raisedUnder namesInput name behind.told =
      Journal.raisedUnder namesInput name before.told ++
        Journal.raisedUnder namesInput name (toldInOrder attempts) := by
  have entries := Room.visitAll_entries around directory order before.room
  have named : (attempts.map fun made => made.1.name).Perm names := by
    have entry := (same.map fun made => (made.1.name, made.1.number)).trans
      (entries ▸ serial.whole)
    have listed := entry.map Prod.fst
    rwa [List.map_map, List.zipIdx_map_fst] at listed
  by_cases listed : name ∈ names
  · obtain ⟨made, member, rfl⟩ := List.mem_map.mp (named.symm.subset listed)
    rw [serial.raisedUnder distinct namesInput (same.subset member),
      Journal.raisedUnder_toldInOrder namesInput (named.nodup_iff.mpr distinct) member]
  · rw [serial.raisedUnder_of_notMem namesInput listed,
      Journal.raisedUnder_toldInOrder_eq_nil namesInput (mt (named.mem_iff).mp listed),
      List.append_nil]

end Serialised

theorem Journal.Told.report_eq {namesInput : Bool} {journal other : Journal}
    {told told' : List (Option InputContext × Event)} (state : Told namesInput told journal)
    (state' : Told namesInput told' other)
    (same : ∀ name, raisedUnder namesInput name told = raisedUnder namesInput name told') :
    journal.collector.report = other.collector.report :=
  Collector.report_congr (state.kept.trans
    ((Collector.recordAll_congr same).trans state'.kept.symm))

theorem Worker.stopped_of_all {workers : List Worker}
    (halted : (workers.all fun worker => match worker with | .stopped => true | _ => false) = true) :
    ∀ worker ∈ workers, worker = .stopped := by
  intro worker member
  have last := List.all_eq_true.mp halted worker member
  split at last
  · rfl
  · cases last

namespace Batch

/-- A journal behind a batch on one thread reports what its attempts raised, in the order of the
list. -/
theorem run_alone_report (around : Surroundings σ) (settings : BatchSettings) (names : List String)
    (room : Room σ) {journal : Journal} (idle : journal.input = none)
    (cleared : journal.collector.events = ∅) :
    let alone := (run (Office.workplace around settings.outputDirectory [])
      { settings with threads := 1 } names).run ⟨room, journal⟩
    let sequential := (Room.visitAll around settings.outputDirectory names.zipIdx).run
      { room with outside := (around.now.run room.outside).2 }
    alone.2.journal.collector.report = (journal.tellAll sequential.1).collector.report := by
  intro alone sequential
  obtain ⟨-, beside⟩ := (Office.workplace_agree journal.namesInput around settings.outputDirectory
    []).run { settings with threads := 1 } names ⟨room, []⟩ ⟨room, journal⟩ ⟨rfl, .start idle cleared⟩
  obtain ⟨later, told⟩ :=
    run_alone_told around { settings with threads := 1 } names [] ⟨room, []⟩ rfl
  refine beside.told.report_eq ((Journal.Told.start idle cleared).tellAll sequential.1) fun name => ?_
  rw [told, Journal.raisedUnder_append, Journal.raisedUnder_append,
    Journal.raisedUnder_unattributed, List.append_nil]
  rfl

/-- Whatever turns the threads of a batch over different names take, until all have stopped: what is
kept under a name is what its one attempt raised, in order and cut at the limit, and no quest is set
on any thread. The report is that of the same attempts told one behind the other, in any order. The
batch as it is run collects the same, and its report is that of one thread alone when the attempts
raise the same there; so it is when what comes of an attempt does not depend on when it is made. -/
theorem attributed_under_every_schedule (around : Surroundings σ) (settings : BatchSettings)
    (names : List String) (distinct : names.Nodup) (workers : Nat) (manned : 0 < workers)
    (room : Room σ) (journal : Journal) (idle : journal.input = none)
    (cleared : journal.collector.events = ∅) (turns : List Nat)
    (stopped : ∀ worker ∈ (Pool.play around settings.outputDirectory names turns
      (Pool.start workers names.length, ⟨room, []⟩)).1.workers, worker = .stopped) :
    let directory := settings.outputDirectory
    let last := Pool.threadPlay around directory names turns
      ((Pool.start workers names.length, ⟨room, []⟩), { journal })
    let collector := last.2.journal.collector
    let shared := ((Pool.start workers names.length).steps (Office.workplace around directory [])
      names turns).run ⟨room, journal⟩
    let alone := (run (Office.workplace around directory []) { settings with threads := 1 }
      names).run ⟨room, journal⟩
    let sequential := (Room.visitAll around directory names.zipIdx).run
      { room with outside := (around.now.run room.outside).2 }
    (∃ order : List (String × Nat), order.Perm names.zipIdx ∧
      let made := (Room.visitAll around directory order).run room
      made.2 = last.1.2.room ∧
      (∀ visited ∈ made.1, ∃ met : Room σ,
        let attempt := ((Attempt.run enteringMessage (Room.workplace around directory).fetcher
          (Room.workplace around directory).output visited.1.name).run met).1
        let fetched := ((around.answer (askedFor visited.1.name)).run met.outside).1
        visited.1 = Outcome.ofResult visited.1.number visited.1.name attempt.result ∧
        visited.2 = attempt.events ++ [endingMessage attempt.result] ∧
        collector.eventsOf visited.1.name = Collector.cut
          ((fetched.raises visited.1.name ++ attempt.failure?.toList).map
            (Journal.prepared journal.namesInput visited.1.input))) ∧
      (∀ attempts, attempts.Perm made.1 →
        collector.report = (journal.tellAll attempts).collector.report) ∧
      (made.1.Perm sequential.1 → collector.report = alone.2.journal.collector.report)) ∧
    (∀ name, name ∉ names → collector.eventsOf name = []) ∧
    (∀ thread, last.2.inputs thread = none) ∧
    (shared.1 = last.1.1 ∧ shared.2.room = last.1.2.room ∧
      shared.2.journal.collector.events = collector.events) ∧
    ((∀ entry ∈ names.zipIdx, ∀ met met' : Room σ,
      ((Room.visit around directory entry).run met).1 =
        ((Room.visit around directory entry).run met').1) →
      collector.report = alone.2.journal.collector.report) := by
  intro directory last collector shared alone sequential
  have played : last.1 = Pool.play around directory names turns
      (Pool.start workers names.length, ⟨room, []⟩) := Pool.threadPlay_pool ..
  obtain ⟨order, serial⟩ :=
    Pool.serialised_of_stopped around directory names manned ⟨room, []⟩ turns stopped
  rw [← show last.1 = _ from played] at stopped serial
  have state : Attributed journal.namesInput last.1.1 last.1.2.told last.2 :=
    (Attributed.start idle cleared workers names.length).play turns
  let made := (Room.visitAll around directory order).run room
  have inAnyOrder (attempts : List (Outcome × List Event)) (same : attempts.Perm made.1) :
      collector.report = (journal.tellAll attempts).collector.report :=
    state.told.report_eq ((Journal.Told.start idle cleared).tellAll attempts) fun name =>
      serial.raisedUnder_eq distinct same journal.namesInput name
  have asAlone (same : made.1.Perm sequential.1) :
      collector.report = alone.2.journal.collector.report :=
    (inAnyOrder _ same.symm).trans (run_alone_report around settings names room idle cleared).symm
  refine ⟨⟨order, serial.whole, serial.ran, fun visited member => ?_, inAnyOrder, asAlone⟩,
    fun name absent => ?_, fun thread => ?_, ?_, fun alike => ?_⟩
  · obtain ⟨⟨name, number⟩, -, met, same⟩ :=
      Room.visitAll_met around directory order room visited member
    have entry := Room.visit_entry around directory (name, number) met
    rw [← same] at entry
    obtain ⟨rfl, rfl⟩ := Prod.mk.inj entry
    have raised := serial.raisedUnder distinct journal.namesInput member
    have events : visited.2 = _ := congrArg Prod.snd same
    refine ⟨met, congrArg Prod.fst same, events, ?_⟩
    rw [← Room.attempt_raises around directory visited.1.name met]
    refine (state.told.eventsOf _).trans (congrArg Collector.cut (raised.trans ?_))
    rw [Journal.collectedFrom, events]
    rfl
  · have raised := serial.raisedUnder_of_notMem journal.namesInput absent
    exact (state.told.eventsOf _).trans (congrArg Collector.cut raised)
  · exact state.cleared stopped thread
  · obtain ⟨same, beside⟩ := (Office.workplace_agree journal.namesInput around directory []).steps
      names (Pool.start workers names.length) turns ⟨room, []⟩ ⟨room, journal⟩
      ⟨rfl, .start idle cleared⟩
    rw [Pool.steps_eq_play, ← played] at same beside
    exact ⟨same.symm, beside.room.symm, beside.told.kept.trans state.told.kept.symm⟩
  · refine asAlone ?_
    have inOrder : ∀ entry ∈ order, _ := fun entry member => alike entry (serial.whole.subset member)
    rw [show made.1 = _ from Room.visitAll_alike around directory inOrder room room,
      show sequential.1 = _ from Room.visitAll_alike around directory alike _ room]
    exact serial.whole.map _

/-- Two threads that take turns at a source without members and a fetcher that breaks down. -/
theorem attributed_two_threads :
    let around : Surroundings Unit := .steady id
      (fun className => if className = "A" then .source "public class A {}".toList else .brokeDown)
      (fun _ => none) (fun _ => none) (pure 0)
    let settings : BatchSettings := { outputDirectory := "out", threads := 2 }
    let names := ["A", "B"]
    let turns := (List.replicate 19 [0, 1]).flatten
    let room : Room Unit := ⟨(), [], fun _ => none⟩
    let journal : Journal := {}
    let last := Pool.threadPlay around settings.outputDirectory names turns
      ((Pool.start 2 names.length, ⟨room, []⟩), { journal })
    let collector := last.2.journal.collector
    (∀ worker ∈ last.1.1.workers, worker = .stopped) ∧
      (∀ thread, last.2.inputs thread = none) ∧
      (collector.eventsOf "A").map (fun event => (event.code, event.details.get? "member")) =
        (["getQuestPointReward", "getExperienceRewards", "getGeneralRequirements",
          "getItemRequirements", "getPanels", "setupRequirements"].map fun member =>
            (.memberNotFound, some member)) ∧
      (collector.eventsOf "B").map (fun event => (event.code, event.message)) =
        [(.internalError, "Skipping quest after a panic")] ∧
      collector.eventsOf "C" = [] ∧
      collector.report =
        ((run (Office.workplace around settings.outputDirectory []) { settings with threads := 1 }
          names).run ⟨room, journal⟩).2.journal.collector.report := by
  intro around settings names turns room journal last collector
  have stopped : ∀ worker ∈ (Pool.play around settings.outputDirectory names turns
      (Pool.start 2 names.length, ⟨room, []⟩)).1.workers, worker = .stopped :=
    Worker.stopped_of_all (by decide +kernel)
  obtain ⟨-, absent, cleared, -, report⟩ := attributed_under_every_schedule around settings names
    (by decide) 2 (by decide) room journal rfl rfl turns stopped
  have played : last.1 = Pool.play around settings.outputDirectory names turns
    (Pool.start 2 names.length, ⟨room, []⟩) := Pool.threadPlay_pool ..
  refine ⟨?_, cleared, by decide +kernel, by decide +kernel, absent "C" (by decide), ?_⟩
  · rw [played]
    exact stopped
  · exact report fun entry _ => Room.visit_steady settings.outputDirectory entry

/-- A fetcher that gives one source, whatever is asked for first, and then refuses. -/
def refusesFurther : Surroundings Nat where
  location := id
  answer className asked :=
    (if asked = 0 then .source "public class A {}".toList
      else .failed (.httpStatus className 429), asked + 1)
  directoryFault _ := pure none
  writeFault _ _ := pure none
  now := pure 0

/-- When the second of two threads asks first, the other quest is skipped than on one thread, and the
reports differ. And for a source with more warnings than the limit allows one event more is kept. -/
theorem report_depends_on_schedule :
    let room : Room Nat := ⟨0, [], fun _ => none⟩
    let last := Pool.threadPlay refusesFurther "out" ["A", "B"]
      ([0, 1, 1] ++ (List.replicate 19 [0, 1]).flatten)
      ((Pool.start 2 2, ⟨room, []⟩), { journal := {} })
    let alone := (run (Office.workplace refusesFurther "out" [])
      { outputDirectory := "out", threads := 1 } ["A", "B"]).run ⟨room, {}⟩
    let flooded := Pool.threadPlay
      (.steady id (fun _ => .source floodedSource) (fun _ => none) (fun _ => none) (pure 0))
      "out" ["Flood"] (List.replicate 150 0)
      ((Pool.start 1 1, ⟨⟨(), [], fun _ => none⟩, []⟩), { journal := {} })
    (∀ worker ∈ last.1.1.workers, worker = .stopped) ∧
      last.2.journal.collector.report ≠ alone.2.journal.collector.report ∧
      (∀ worker ∈ flooded.1.1.workers, worker = .stopped) ∧
      Collector.eventLimit < (flooded.2.journal.collector.eventsOf "Flood").length := by
  intro room last alone flooded
  exact ⟨Worker.stopped_of_all (by decide +kernel), by decide +kernel,
    Worker.stopped_of_all (by decide +kernel), by decide +kernel⟩

end Batch
end QuestRecords
