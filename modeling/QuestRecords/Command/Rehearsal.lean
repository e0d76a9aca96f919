import QuestRecords.Command.Host

/-! Rehearsals of a command: it runs on files held as a value, at a clock that stands still and
without a network, and its lines are kept. -/
namespace QuestRecords

/-- The world of a command in rehearsal: its files, and the lines printed to each stream. -/
structure Screen where
  tree : FileTree
  output : Array String := #[]
  errors : Array String := #[]

namespace Screen

/-- The lines of a text. A carriage return before the end of a line belongs to that end. -/
def linesOf (text : String) : List String :=
  (text.splitOn "\n").map fun line => if line.endsWith "\r" then (line.dropEnd 1).toString else line

/-- Adds the lines of a text to a stream. -/
def append (stream : Stream) (text : String) (screen : Screen) : Screen :=
  let lines := (linesOf text).toArray
  match stream with
  | .output => { screen with output := screen.output ++ lines }
  | .errors => { screen with errors := screen.errors ++ lines }

def host (environment : Environment) (processors : Nat) : Host (StateM Screen) where
  files := FileTree.access Screen.tree fun tree screen => { screen with tree }
  environment
  processors
  now := pure 0
  print stream text := modify (Screen.append stream text)
  download _ location := pure (.failed (.network location "no network"))

end Screen
end QuestRecords
