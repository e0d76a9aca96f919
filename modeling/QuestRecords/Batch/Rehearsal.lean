import QuestRecords.Batch.Run

/-! Rehearsals of a batch: files are a tree held as a value, the clock stands still, and events go
into a list. What a batch does to the world is then a value too. -/
namespace QuestRecords

/-- The world of a rehearsal: its files, the journal, and the events that passed its threshold. -/
structure Rehearsal where
  tree : FileTree
  journal : Journal := {}
  events : Array Event := #[]

namespace Rehearsal

def files : FileAccess (StateM Rehearsal) :=
  FileTree.access Rehearsal.tree fun tree rehearsal => { rehearsal with tree }

/-- Enters events into the journal. -/
def deliver (input? : Option InputContext) (events : List Event) : StateM Rehearsal Unit :=
  modify fun rehearsal =>
    let (journal, written) := rehearsal.journal.recordIn input? events
    { rehearsal with journal, events := rehearsal.events ++ written.toArray }

/-- A workplace whose records go into a directory. -/
def workplace (fetcher : Fetcher (StateM Rehearsal)) (directory : String) :
    Workplace (StateM Rehearsal) where
  fetcher
  output := Output.directory files directory
  deliver
  now := pure 0

end Rehearsal

/-- Fetches from a table of answers by class name; a class that is not in it is not found. -/
def Fetcher.ofTable [Monad m] (location : String → String) (answers : List (String × Fetched)) :
    Fetcher m where
  location
  fetch className :=
    pure ((answers.lookup className).getD (.failed (.httpStatus (location className) 404)))

end QuestRecords
