import QuestRecords.Text.Basic

/-! Command lines as words: flags, options with a value, and operands. An option has a name behind
two dashes and may have a letter behind one; its value stands behind an equals sign or in the
argument that follows. Behind two dashes alone there are only operands. -/
namespace QuestRecords

/-- An option that a command knows. -/
structure OptionForm where
  name : String
  letter : Option Char := none
  takesValue : Bool := false
  deriving DecidableEq

inductive Word where
  | flag (name : String)
  | valued (name value : String)
  | operand (text : String)
  /-- An argument that is no word: an unknown option, a value that is missing, or a value where
  there is none. -/
  | misplaced
  deriving DecidableEq

namespace Word

/-- How an argument is spelled. -/
inductive Spelling where
  | dashes
  | long (name : Text) (attached : Option Text)
  | letters (text : Text)
  | plain
  deriving DecidableEq

/-- What stands before the first equals sign, and what behind it. -/
def splitEquals : Text → Text × Option Text
  | [] => ([], none)
  | '=' :: value => ([], some value)
  | c :: rest =>
    let (name, attached) := splitEquals rest
    (c :: name, attached)

def spelling : Text → Spelling
  | ['-', '-'] => .dashes
  | '-' :: '-' :: rest => .long (splitEquals rest).1 (splitEquals rest).2
  | ['-'] => .plain
  | '-' :: rest => .letters rest
  | _ => .plain

/-- An option as the word or words it is, and the option whose value is still to come. -/
abbrev Reading := List Word × Option String

/-- Reads a name behind two dashes. -/
def ofLong (forms : List OptionForm) (name : Text) (attached : Option Text) : Reading :=
  match forms.find? (·.name.toList = name), attached with
  | none, _ => ([misplaced], none)
  | some form, none => if form.takesValue then ([], some form.name) else ([flag form.name], none)
  | some form, some value =>
    if form.takesValue then ([valued form.name (String.ofList value)], none)
    else ([misplaced], none)

/-- Reads letters behind one dash; the rest behind the letter of an option with a value is its
value. -/
def ofLetters (forms : List OptionForm) : Text → Reading
  | [] => ([], none)
  | c :: rest =>
    match forms.find? (·.letter = some c) with
    | none => ([misplaced], none)
    | some form =>
      if form.takesValue then
        match rest with
        | [] => ([], some form.name)
        | '=' :: value => ([valued form.name (String.ofList value)], none)
        | value => ([valued form.name (String.ofList value)], none)
      else
        let (words, waiting) := ofLetters forms rest
        (flag form.name :: words, waiting)

/-- Reads arguments from left to right; `waiting` is the option whose value is still to come. An
argument that is spelled like an option is no value. -/
def ofArguments (forms : List OptionForm) (waiting : Option String) : List String → List Word
  | [] => if waiting.isSome then [misplaced] else []
  | argument :: rest =>
    match waiting, spelling argument.toList with
    | some name, .plain => valued name argument :: ofArguments forms none rest
    | some _, _ => [misplaced]
    | none, .plain => operand argument :: ofArguments forms none rest
    | none, .dashes => rest.map operand
    | none, .long name attached =>
      let (words, next) := ofLong forms name attached
      words ++ ofArguments forms next rest
    | none, .letters text =>
      let (words, next) := ofLetters forms text
      words ++ ofArguments forms next rest

end Word
end QuestRecords
