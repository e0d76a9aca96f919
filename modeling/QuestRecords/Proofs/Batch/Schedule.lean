import QuestRecords.Proofs.Batch.Completed

/-! Surroundings that always answer alike. What a batch does in them does not depend on the number
of its workers, nor on the order in which they take their turns. -/
namespace QuestRecords

variable {σ : Type}

theorem FetchError.code_ne_internalError (error : FetchError) : error.code ≠ .internalError := by
  cases error <;> simp only [code] <;> decide

theorem Outcome.ofResult_ne_untaken (number : Nat) (name : String)
    (result : Except Failure (ExtractedQuest × String)) (other : String) (place : Nat) :
    ofResult number name result ≠ Pool.untaken other place := by
  intro same
  have ending := congrArg Outcome.ending same
  cases result with
  | ok done => cases ending
  | error failure =>
    simp only [ofResult, Pool.untaken, Ending.skipped.injEq] at ending
    obtain ⟨stage, code, message⟩ := ending
    cases failure with
    | breakdown stopped =>
      cases stage
      exact absurd message (by decide)
    | failed error =>
      cases error with
      | fetch className error => exact error.code_ne_internalError code
      | extraction message => cases stage
      | persist key error => cases stage

theorem Serialised.untaken_notMem {around : Surroundings σ} {directory : String}
    {names : List String} {before behind : World σ} {outcomes : List Outcome}
    {order : List (String × Nat)}
    (serial : Serialised around directory names before behind outcomes order) (name : String)
    (number : Nat) : Pool.untaken name number ∉ outcomes := by
  intro member
  obtain ⟨visited, made, same⟩ := List.mem_map.mp (serial.placed.subset member)
  obtain ⟨entry, -, met, rfl⟩ := Room.visitAll_met around directory order before.room _ made
  exact Outcome.ofResult_ne_untaken _ _ _ name number same

section Steady

variable {location : String → String} {answer : String → Fetched}
variable {directoryFault writeFault : String → Option FileFault} {now : StateM σ Nat}
variable (directory : String)

namespace Room

theorem writeDocument_steady (fileName : String) (document : Json) (room other : Room σ) :
    let around := Surroundings.steady location answer directoryFault writeFault now
    (((workplace around directory).output.writeDocument fileName document).run room).1 =
      (((workplace around directory).output.writeDocument fileName document).run other).1 := by
  intro around
  have made (room : Room σ) : (outwards (around.directoryFault directory)).run room =
      pure (directoryFault directory, room) := rfl
  simp only [Output.writeDocument, workplace, Output.directory, Output.ensureDirectory, access,
    StateT.run_bind, bind_assoc, made, pure_bind]
  cases directoryFault directory with
  | some fault => rfl
  | none =>
    have wrote (room : Room σ) : (outwards (around.writeFault (Path.join directory fileName)
        (String.ofList document.pretty).toUTF8)).run room =
          pure (writeFault (Path.join directory fileName), room) := rfl
    simp only [StateT.run_pure, pure_bind, StateT.run_bind, bind_assoc, wrote]
    cases writeFault (Path.join directory fileName) with
    | some fault => rfl
    | none => rfl

/-- What comes of an attempt does not depend on what was done before it. -/
theorem visit_steady (entry : String × Nat) (room other : Room σ) :
    let around := Surroundings.steady location answer directoryFault writeFault now
    ((visit around directory entry).run room).1 = ((visit around directory entry).run other).1 := by
  intro around
  have fetched (room : Room σ) :
      ((workplace around directory).fetcher.fetch (askedFor entry.1)).run room =
        pure (answer (askedFor entry.1), { room with
          fetched := room.fetched ++ [(askedFor entry.1, answer (askedFor entry.1))] }) := rfl
  rw [askedFor] at fetched
  simp only [visit, Batch.attempt, Attempt.run, StateT.run_bind, bind_assoc, fetched, pure_bind]
  cases answer (String.ofList (Naming.className entry.1.toList)) with
  | failed error => rfl
  | brokeDown => rfl
  | source source =>
    let quest := (ExtractedQuest.ofSource entry.1 source).value
    let writing := (workplace around directory).output.writeRecord quest.key quest.record
    obtain ⟨result, alike⟩ : ∃ result, ∀ any : Room σ, ∃ left,
        writing.run any = pure (result, left) :=
      ⟨(writing.run room).1, fun any =>
        ⟨(writing.run any).2, Prod.ext (writeDocument_steady directory _ _ any room) rfl⟩⟩
    choose left wrote using alike
    simp only [StateT.run_bind, writing, quest, wrote, pure_bind]
    rfl

theorem visitOf_steady (entry : String × Nat) (room other : Room σ) :
    let around := Surroundings.steady location answer directoryFault writeFault now
    visitOf around directory entry room = visitOf around directory entry other := by
  intro around
  rw [visitOf, visitOf, visit_steady directory entry room other]
  rfl

theorem visitsOf_steady (order : List (String × Nat)) (room other : Room σ) :
    let around := Surroundings.steady location answer directoryFault writeFault now
    visitsOf around directory order room =
      order.map fun entry => visitOf around directory entry other := by
  induction order generalizing room with
  | nil => rfl
  | cons entry order ih =>
    intro around
    rw [visitsOf, ih, List.map_cons, visitOf_steady directory entry room other]

theorem visitAll_steady (order : List (String × Nat)) (room other : Room σ) :
    let around := Surroundings.steady location answer directoryFault writeFault now
    ((visitAll around directory order).run room).1 =
      order.map fun entry => ((visit around directory entry).run other).1 :=
  visitAll_alike _ directory (fun entry _ => visit_steady directory entry) room other

end Room

namespace Serialised

variable {directory} {names : List String} {before behind : World σ} {outcomes : List Outcome}
variable {order : List (String × Nat)}

/-- The outcomes of a serial batch are those of its quests alone. -/
theorem outcomes_steady (serial : Serialised
    (Surroundings.steady location answer directoryFault writeFault now) directory names before
    behind outcomes order) (room : Room σ) :
    outcomes = names.zipIdx.map fun entry => ((Room.visit
      (Surroundings.steady location answer directoryFault writeFault now) directory entry).run
        room).1.1 := by
  have placed := serial.placed
  rw [Room.visitAll_steady directory order before.room room, List.map_map] at placed
  rw [← serial.listed, List.map_map]
  refine (List.map_id outcomes).symm.trans (List.map_congr_left fun outcome member => ?_)
  obtain ⟨entry, -, made⟩ := List.mem_map.mp (placed.subset member)
  have named := Room.visit_entry
    (Surroundings.steady location answer directoryFault writeFault now) directory entry room
  have same : outcome.entry = entry := by
    rw [← made]
    exact named
  rw [Function.comp_apply, same]
  exact made.symm

/-- What a serial batch tells for a quest is what the attempt at that quest alone tells. -/
theorem told_steady (serial : Serialised
    (Surroundings.steady location answer directoryFault writeFault now) directory names before
    behind outcomes order) (room : Room σ) (input : InputContext) :
    eventsFor input behind.told = eventsFor input before.told ++
      if (input.name, input.number) ∈ names.zipIdx then ((Room.visit
        (Surroundings.steady location answer directoryFault writeFault now) directory
          (input.name, input.number)).run room).1.2 else [] := by
  obtain ⟨fresh, told, toldFor, attributed⟩ := serial.told
  rw [told, eventsFor_append]
  congr 1
  rw [Room.visitAll_steady directory order before.room room] at toldFor
  split
  · rename_i listed
    have attempted : (input.name, input.number) ∈ order := serial.whole.symm.subset listed
    have all := toldFor _ (List.mem_map.mpr ⟨_, attempted, rfl⟩)
    have named := Room.visit_entry
      (Surroundings.steady location answer directoryFault writeFault now) directory
        (input.name, input.number) room
    rw [← all]
    congr 1
    exact (congrArg (fun entry : String × Nat => (⟨entry.1, entry.2⟩ : InputContext)) named).symm
  · rename_i absent
    apply List.filterMap_eq_nil_iff.mpr
    intro told member
    obtain ⟨outcome, made, same⟩ := attributed told member
    rw [same, if_neg]
    intro equal
    have listed : outcome.entry ∈ names.zipIdx :=
      serial.listed ▸ List.mem_map.mpr ⟨outcome, made, rfl⟩
    exact absent (Option.some.inj equal ▸ listed)

/-- A serial batch asks for the source of each of its quests once. -/
theorem fetched_steady (serial : Serialised
    (Surroundings.steady location answer directoryFault writeFault now) directory names before
    behind outcomes order) :
    behind.room.fetched.Perm (before.room.fetched ++
      names.map fun name => (askedFor name, answer (askedFor name))) := by
  obtain ⟨-, -, fetched, -⟩ := Room.visitAll_leaves
    (Surroundings.steady location answer directoryFault writeFault now) directory order before.room
  rw [← serial.ran, fetched]
  refine List.Perm.append_left _ ?_
  have made (entry : String × Nat) (room : Room σ) : (Room.visitOf
      (Surroundings.steady location answer directoryFault writeFault now) directory entry
        room).outcome.name = entry.1 := congrArg Prod.fst (Room.visit_entry
        (Surroundings.steady location answer directoryFault writeFault now) directory entry room)
  rw [Room.visitsOf_steady directory order before.room before.room, List.map_map]
  refine (serial.whole.map _).trans (List.Perm.of_eq ?_)
  conv_rhs => rw [← List.zipIdx_map_fst 0 names, List.map_map]
  refine List.map_congr_left fun entry _ => ?_
  simp only [Function.comp_apply, made]
  rfl

/-- Two serial batches that began with the same files leave the same files, when no two of their
records have one key. -/
theorem files_steady {before' behind' : World σ} {outcomes' : List Outcome}
    {order' : List (String × Nat)} (serial : Serialised
      (Surroundings.steady location answer directoryFault writeFault now) directory names before
      behind outcomes order)
    (other : Serialised
      (Surroundings.steady location answer directoryFault writeFault now) directory names before'
      behind' outcomes' order')
    (begun : before.room.files = before'.room.files)
    (distinct : (outcomes.filterMap Outcome.key?).Nodup) :
    behind.room.files = behind'.room.files := by
  let around := Surroundings.steady location answer directoryFault writeFault now
  obtain ⟨sound, results, -, files⟩ := Room.visitAll_leaves around directory order before.room
  obtain ⟨-, -, -, files'⟩ := Room.visitAll_leaves around directory order' before'.room
  rw [← serial.ran, ← other.ran, files, files', begun]
  refine foldl_put_perm ?_ ?_
  · rw [Room.visitsOf_steady directory order before.room before.room,
      Room.visitsOf_steady directory order' before'.room before.room]
    exact ((serial.whole.trans other.whole.symm).map _).filterMap _
  · rw [Visit.paths_written sound, Visit.paths_nodup_iff sound]
    have placed := serial.placed.filterMap Outcome.key?
    rw [results, List.filterMap_map] at placed
    exact placed.nodup_iff.mp distinct

end Serialised

theorem eventsFor_unattributed (input : InputContext) (events : List Event) :
    eventsFor input (events.map (none, ·)) = [] := by
  simp [eventsFor]

namespace Batch

/-- Every quest of a batch is attempted once and none is passed over, and what comes of them is
what comes of them in order, whoever takes which turn. -/
theorem run_eq_in_order (settings : BatchSettings) (names : List String) (turns : List Nat)
    (world : World σ) (allowed : BatchSettings.allowsThreads settings.threads = true) :
    let workplace := World.workplace
      (Surroundings.steady location answer directoryFault writeFault now)
      settings.outputDirectory turns
    let shared := (run workplace settings names).run world
    let inOrder := (attemptAll workplace names).run world
    ∃ results, shared.1 = .ok results ∧ results.outcomes = inOrder.1 ∧
      results.outcomes.map Outcome.entry = names.zipIdx ∧
      (∀ name number, Pool.untaken name number ∉ results.outcomes) ∧
      shared.2.room.fetched.Perm (world.room.fetched ++
        names.map fun name => (askedFor name, answer (askedFor name))) ∧
      (∀ input, eventsFor input shared.2.told = eventsFor input inOrder.2.told) ∧
      ((results.outcomes.filterMap Outcome.key?).Nodup → ∀ path,
        (settings.writesReport = true → path ≠ Path.join settings.outputDirectory reportFile) →
          shared.2.room.files path = inOrder.2.room.files path) := by
  intro workplace shared inOrder
  obtain ⟨results, begun, ended, order, reported?, result, started, fetched, files, serial,
    closed⟩ := run_completes (Surroundings.steady location answer directoryFault writeFault now)
      settings names turns world allowed
  have sequential := attemptAll_serialised
    (Surroundings.steady location answer directoryFault writeFault now) settings.outputDirectory
    names turns world
  refine ⟨results, result, ?_, serial.listed, serial.untaken_notMem, ?_, ?_, ?_⟩
  · exact (serial.outcomes_steady world.room).trans (sequential.outcomes_steady world.room).symm
  · exact (List.Perm.of_eq closed.fetched).trans (fetched ▸ serial.fetched_steady)
  · intro input
    rw [closed.told, eventsFor_append, eventsFor_unattributed, List.append_nil,
      serial.told_steady world.room, sequential.told_steady world.room, started, eventsFor_append]
    congr 1
    exact List.append_nil _
  · intro distinct path elsewhere
    have same := serial.files_steady sequential files distinct
    rw [← same]
    cases reported? with
    | none => exact congrFun (closed.unwritten (by simp)) path
    | some written =>
      have reports : settings.writesReport = true := closed.asked.symm
      cases written with
      | error error => exact congrFun (closed.unwritten (by simp)) path
      | ok reportPath =>
        obtain ⟨rfl, _, _, changed⟩ := closed.written _ rfl
        rw [changed]
        exact Function.update_of_ne (elsewhere reports) _ _

theorem run_eq_in_order_two_workers :
    BatchSettings.allowsThreads 2 = true ∧
      ∃ results, ((run (World.workplace (Surroundings.steady id
        (fun className => if className = "A" then .source [] else .brokeDown) (fun _ => none)
          (fun _ => none) (pure 0)) "out" [1, 0, 1])
        { outputDirectory := "out", threads := 2 } ["A", "B"]).run
          (⟨⟨(), [], fun _ => none⟩, []⟩ : World Unit)).1 = .ok results ∧
        results.outcomes.map Outcome.entry = [("A", 0), ("B", 1)] := by
  obtain ⟨results, completed, -, entries, -⟩ := @run_eq_in_order Unit id
    (fun className => if className = "A" then .source [] else .brokeDown) (fun _ => none)
    (fun _ => none) (pure 0) { outputDirectory := "out", threads := 2 } ["A", "B"] [1, 0, 1]
    ⟨⟨(), [], fun _ => none⟩, []⟩ (by decide)
  exact ⟨by decide, results, completed, entries⟩

end Batch
end Steady
end QuestRecords
