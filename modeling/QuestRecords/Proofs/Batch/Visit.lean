import QuestRecords.Proofs.Batch.Turn
import QuestRecords.Proofs.Quest.RecordPath

namespace QuestRecords

def QuestRecord.content (record : QuestRecord) : ByteArray :=
  (String.ofList record.toJson.pretty).toUTF8

/-- The class that the source of a quest is asked for by. -/
def askedFor (name : String) : String := String.ofList (Naming.className name.toList)

def put (files : String → Option ByteArray) (entry : String × ByteArray) :
    String → Option ByteArray :=
  Function.update files entry.1 (some entry.2)

def Outcome.key? (outcome : Outcome) : Option String :=
  match outcome.ending with
  | .done key _ => some key
  | .skipped _ _ _ => none

def Outcome.path? (outcome : Outcome) : Option String :=
  match outcome.ending with
  | .done _ path => some path
  | .skipped _ _ _ => none

/-- An attempt that was made, and the answer that it got from the fetcher. -/
structure Visit where
  outcome : Outcome
  fetched : Fetched

namespace Visit

/-- The content of the record that belongs to the attempt. -/
def content? (visit : Visit) : Option ByteArray :=
  match visit.fetched with
  | .source source => some (ExtractedQuest.ofSource visit.outcome.name source).value.record.content
  | _ => none

/-- What the attempt wrote, and where. -/
def written? (visit : Visit) : Option (String × ByteArray) := do
  let path ← visit.outcome.path?
  let content ← visit.content?
  return (path, content)

/-- An attempt that is done was given a source, and its key and path are those of that source. -/
structure Sound (directory : String) (visit : Visit) : Prop where
  done : ∀ key path, visit.outcome.ending = .done key path → ∃ source,
    visit.fetched = .source source ∧
      key = (ExtractedQuest.ofSource visit.outcome.name source).value.key ∧
      path = recordPath directory key

end Visit

namespace Room

variable {σ : Type} (around : Surroundings σ) (directory : String)

/-- The attempt at a quest that is made in a room. -/
def visitOf (entry : String × Nat) (room : Room σ) : Visit where
  outcome := ((visit around directory entry).run room).1.1
  fetched := ((around.answer (askedFor entry.1)).run room.outside).1

def visitsOf : List (String × Nat) → Room σ → List Visit
  | [], _ => []
  | entry :: order, room =>
    visitOf around directory entry room ::
      visitsOf order ((visit around directory entry).run room).2

theorem outwards_run {answer : StateM σ α} {room : Room σ} {value : α} {outside : σ}
    (answered : answer.run room.outside = pure (value, outside)) :
    (outwards answer).run room = pure (value, { room with outside }) := by
  change ((answer.run room.outside).1, { room with outside := (answer.run room.outside).2 }) = _
  rw [answered]
  rfl

theorem writeDocument_leaves (fileName : String) (document : Json) (room : Room σ) :
    let written := ((workplace around directory).output.writeDocument fileName document).run room
    written.2.fetched = room.fetched ∧
      (written.1 = .ok (Path.join directory fileName) ∧
          written.2.files = put room.files
            (Path.join directory fileName, (String.ofList document.pretty).toUTF8) ∨
        (∃ error, written.1 = .error error) ∧ written.2.files = room.files) := by
  intro written
  have run : written = ((workplace around directory).output.writeDocument fileName document).run
    room := rfl
  simp only [Output.writeDocument, workplace, Output.directory, Output.ensureDirectory, access,
    StateT.run_bind, bind_assoc] at run
  obtain ⟨fault?, outside, made⟩ : ∃ fault? outside,
      (around.directoryFault directory).run room.outside = pure (fault?, outside) := ⟨_, _, rfl⟩
  rw [outwards_run made, pure_bind] at run
  cases fault? with
  | some fault =>
    rw [run]
    exact ⟨rfl, .inr ⟨⟨_, rfl⟩, rfl⟩⟩
  | none =>
    obtain ⟨fault?, later, wrote⟩ : ∃ fault? later,
        (around.writeFault (Path.join directory fileName)
          (String.ofList document.pretty).toUTF8).run outside = pure (fault?, later) := ⟨_, _, rfl⟩
    simp only [StateT.run_pure, pure_bind, StateT.run_bind, bind_assoc] at run
    rw [outwards_run wrote, pure_bind] at run
    cases fault? with
    | some fault =>
      rw [run]
      exact ⟨rfl, .inr ⟨⟨_, rfl⟩, rfl⟩⟩
    | none =>
      rw [run]
      exact ⟨rfl, .inl ⟨rfl, rfl⟩⟩

theorem fetch_run {className : String} {room : Room σ} {fetched : Fetched} {outside : σ}
    (answered : (around.answer className).run room.outside = pure (fetched, outside)) :
    ((workplace around directory).fetcher.fetch className).run room =
      pure (fetched, ⟨outside, room.fetched ++ [(className, fetched)], room.files⟩) := by
  simp only [workplace, fetch, StateT.run_bind]
  rw [outwards_run answered]
  rfl

theorem visit_unfetched {entry : String × Nat} {room : Room σ} {fetched : Fetched} {outside : σ}
    (answered : (around.answer (askedFor entry.1)).run room.outside = pure (fetched, outside))
    (sourceless : ∀ source, fetched ≠ .source source) :
    let last := (visit around directory entry).run room
    last.1.1.isDone = false ∧
      last.2 = ⟨outside, room.fetched ++ [(askedFor entry.1, fetched)], room.files⟩ := by
  intro last
  have run : last = (visit around directory entry).run room := rfl
  simp only [visit, Batch.attempt, Attempt.run, StateT.run_bind, bind_assoc] at run
  rw [askedFor] at answered
  rw [fetch_run around directory answered, pure_bind] at run
  cases fetched with
  | source source => exact absurd rfl (sourceless source)
  | failed error =>
    rw [run]
    exact ⟨rfl, rfl⟩
  | brokeDown =>
    rw [run]
    exact ⟨rfl, rfl⟩

/-- How an attempt ends whose record was written, or could not be. -/
def endingOf (key : String) : Except PersistError String → Ending
  | .ok path => .done key path
  | .error error =>
    .skipped .writing (PipelineError.persist key error).code
      (PipelineError.persist key error).message

theorem visit_fetched {entry : String × Nat} {room : Room σ} {source : Text} {outside : σ}
    (answered : (around.answer (askedFor entry.1)).run room.outside =
      pure (.source source, outside)) :
    let last := (visit around directory entry).run room
    let quest := (ExtractedQuest.ofSource entry.1 source).value
    let written := ((workplace around directory).output.writeDocument
      (String.ofList (Naming.recordFile quest.key.toList)) quest.record.toJson).run
      ⟨outside, room.fetched ++ [(askedFor entry.1, .source source)], room.files⟩
    last.1.1.ending = endingOf quest.key written.1 ∧ last.2 = written.2 := by
  intro last quest written
  have run : last = (visit around directory entry).run room := rfl
  simp only [visit, Batch.attempt, Attempt.run, StateT.run_bind, bind_assoc] at run
  rw [askedFor] at answered
  rw [fetch_run around directory answered, pure_bind] at run
  obtain ⟨result, left, wrote⟩ : ∃ result left, written = pure (result, left) := ⟨_, _, rfl⟩
  have recorded : ((workplace around directory).output.writeRecord quest.key quest.record).run
      ⟨outside, room.fetched ++ [(askedFor entry.1, .source source)], room.files⟩ =
        pure (result, left) := wrote
  simp only [StateT.run_bind, bind_assoc] at run
  rw [askedFor] at recorded
  rw [recorded, pure_bind] at run
  rw [run, wrote]
  cases result with
  | ok path => exact ⟨rfl, rfl⟩
  | error error => exact ⟨rfl, rfl⟩

theorem visitOf_fetched {entry : String × Nat} {room : Room σ} {fetched : Fetched} {outside : σ}
    (answered : (around.answer (askedFor entry.1)).run room.outside = pure (fetched, outside)) :
    (visitOf around directory entry room).fetched = fetched :=
  congrArg Prod.fst answered

theorem visitOf_name (entry : String × Nat) (room : Room σ) :
    (visitOf around directory entry room).outcome.name = entry.1 :=
  congrArg Prod.fst (visit_entry around directory entry room)

theorem visit_leaves_of_source {entry : String × Nat} {room : Room σ} {source : Text} {outside : σ}
    (answered : (around.answer (askedFor entry.1)).run room.outside =
      pure (.source source, outside)) :
    let made := visitOf around directory entry room
    let last := ((visit around directory entry).run room).2
    made.Sound directory ∧
      last.fetched = room.fetched ++ [(askedFor entry.1, made.fetched)] ∧
      last.files = made.written?.toList.foldl put room.files := by
  intro made last
  have name : made.outcome.name = entry.1 := visitOf_name around directory entry room
  have given : made.fetched = .source source := visitOf_fetched around directory answered
  let quest := (ExtractedQuest.ofSource entry.1 source).value
  let begun : Room σ := ⟨outside, room.fetched ++ [(askedFor entry.1, .source source)], room.files⟩
  have content : made.content? = some quest.record.content := by
    rw [Visit.content?, given, name]
  obtain ⟨ending, left⟩ := visit_fetched around directory answered
  obtain ⟨kept, ⟨wrote, changed⟩ | ⟨⟨error, failed⟩, unchanged⟩⟩ := writeDocument_leaves
    around directory (String.ofList (Naming.recordFile quest.key.toList)) quest.record.toJson begun
  · have ended : made.outcome.ending = endingOf quest.key (.ok _) :=
      ending.trans (congrArg (endingOf quest.key) wrote)
    have path : made.outcome.path? = some (recordPath directory quest.key) := by
      rw [Outcome.path?, ended, endingOf]
      rfl
    have written : made.written? =
        some (recordPath directory quest.key, quest.record.content) := by
      rw [Visit.written?, path, content]
      rfl
    refine ⟨⟨fun key path done => ⟨source, given, ?_⟩⟩, ?_, ?_⟩
    · cases ended.symm.trans done
      exact ⟨by rw [name], rfl⟩
    · rw [given]
      exact (congrArg Room.fetched left).trans kept
    · rw [written, Option.toList_some, List.foldl_cons, List.foldl_nil]
      exact (congrArg Room.files left).trans changed
  · have ended : made.outcome.ending = endingOf quest.key (.error error) :=
      ending.trans (congrArg (endingOf quest.key) failed)
    have path : made.outcome.path? = none := by rw [Outcome.path?, ended, endingOf]
    refine ⟨⟨fun key path done => ?_⟩, ?_, ?_⟩
    · cases ended.symm.trans done
    · rw [given]
      exact (congrArg Room.fetched left).trans kept
    · rw [Visit.written?, path, Option.bind_eq_bind, Option.bind_none]
      exact (congrArg Room.files left).trans unchanged

/-- What an attempt without a source leaves. -/
theorem visit_leaves_of_sourceless {entry : String × Nat} {room : Room σ} {fetched : Fetched}
    {outside : σ}
    (answered : (around.answer (askedFor entry.1)).run room.outside = pure (fetched, outside))
    (sourceless : ∀ source, fetched ≠ .source source) :
    let made := visitOf around directory entry room
    let last := ((visit around directory entry).run room).2
    made.Sound directory ∧
      last.fetched = room.fetched ++ [(askedFor entry.1, made.fetched)] ∧
      last.files = made.written?.toList.foldl put room.files := by
  intro made last
  obtain ⟨skipped, left⟩ := visit_unfetched around directory answered sourceless
  have unwritten : ∀ key path, made.outcome.ending ≠ .done key path := by
    intro key path done
    have done_at_last : made.outcome.isDone = true := by rw [Outcome.isDone, done]
    exact absurd (done_at_last.symm.trans skipped) (by simp)
  have path : made.outcome.path? = none := by
    rw [Outcome.path?]
    split
    · rename_i key path done
      exact absurd done (unwritten key path)
    · rfl
  refine ⟨⟨fun key path done => absurd done (unwritten key path)⟩, ?_, ?_⟩
  · rw [visitOf_fetched around directory answered]
    exact congrArg Room.fetched left
  · rw [Visit.written?, path, Option.bind_eq_bind, Option.bind_none]
    exact (congrArg Room.files left).trans rfl

/-- What one attempt leaves. -/
theorem visit_leaves (entry : String × Nat) (room : Room σ) :
    let made := visitOf around directory entry room
    let last := ((visit around directory entry).run room).2
    made.Sound directory ∧
      last.fetched = room.fetched ++ [(askedFor entry.1, made.fetched)] ∧
      last.files = made.written?.toList.foldl put room.files := by
  obtain ⟨fetched, outside, answered⟩ : ∃ fetched outside,
      (around.answer (askedFor entry.1)).run room.outside = pure (fetched, outside) := ⟨_, _, rfl⟩
  cases fetched with
  | source source => exact visit_leaves_of_source around directory answered
  | failed error => exact visit_leaves_of_sourceless around directory answered nofun
  | brokeDown => exact visit_leaves_of_sourceless around directory answered nofun

/-- What attempts made one after the other leave. -/
theorem visitAll_leaves (order : List (String × Nat)) (room : Room σ) :
    let made := visitsOf around directory order room
    let last := (visitAll around directory order).run room
    (∀ visit ∈ made, visit.Sound directory) ∧
      last.1.map Prod.fst = made.map Visit.outcome ∧
      last.2.fetched = room.fetched ++
        made.map (fun visit => (askedFor visit.outcome.name, visit.fetched)) ∧
      last.2.files = (made.filterMap Visit.written?).foldl put room.files := by
  induction order generalizing room with
  | nil => simp [visitsOf, visitAll_nil]
  | cons entry order ih =>
    intro made last
    obtain ⟨sound, fetched, files⟩ := visit_leaves around directory entry room
    obtain ⟨others, outcomes, answers, writes⟩ := ih ((visit around directory entry).run room).2
    have named := visitOf_name around directory entry room
    simp only [last, made, visitAll_cons, visitsOf, List.map_cons]
    refine ⟨List.forall_mem_cons.mpr ⟨sound, others⟩, ?_, ?_, ?_⟩
    · rw [outcomes]
      rfl
    · rw [answers, fetched, named, List.append_assoc]
      rfl
    · rw [writes, files, List.filterMap_cons]
      cases (visitOf around directory entry room).written? <;> rfl

end Room
end QuestRecords
