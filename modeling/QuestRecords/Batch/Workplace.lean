import QuestRecords.Batch.Outcome
import QuestRecords.Diagnostics.Journal

/-! Where the quests of a batch are attempted. An attempt does not depend on those made before it,
except through the files they left. -/
namespace QuestRecords

/-- What a batch works with. `deliver` takes the events that were raised, with the quest that they
were raised for; `now` is the time in milliseconds. Where several workers share a batch, `turns`
says which of them has the next turn, for as long as that is settled from outside. -/
structure Workplace (m : Type → Type) where
  fetcher : Fetcher m
  output : Output m
  deliver : Option InputContext → List Event → m Unit
  now : m Nat
  turns : List Nat := []

namespace Batch

def enteringMessage (stage : Stage) : List Event :=
  [.debug "Stage started" [("stage", stage.label)]]

/-- Tells how an attempt ended. -/
def endingMessage : Except Failure (ExtractedQuest × String) → Event
  | .ok (quest, _) => .info "Quest written" [("key", quest.key)]
  | .error failure => failure.event

/-- All events of one attempt. -/
def eventsOf (attempt : Attempt) : List Event := attempt.events ++ [endingMessage attempt.result]

/-- Attempts a quest: what became of it, and the events raised for it. -/
def attempt [Monad m] (workplace : Workplace m) (name : String) (number : Nat) :
    m (Outcome × List Event) := do
  let attempt ← Attempt.run enteringMessage workplace.fetcher workplace.output name
  return (Outcome.ofResult number name attempt.result, eventsOf attempt)

/-- Attempts one quest of the list, and delivers its events. -/
def attemptOne [Monad m] (workplace : Workplace m) (entry : String × Nat) : m Outcome := do
  let (name, number) := entry
  let (outcome, events) ← attempt workplace name number
  workplace.deliver (some ⟨name, number⟩) events
  return outcome

/-- Attempts all quests in order. -/
def attemptAll [Monad m] (workplace : Workplace m) (names : List String) : m (List Outcome) :=
  names.zipIdx.mapM (attemptOne workplace)

end Batch
end QuestRecords
