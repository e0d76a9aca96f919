import QuestRecords.Files.Tree
import QuestRecords.Text.Basic

namespace QuestRecords

namespace Path

/-- The parts of a text between slashes, empty ones among them. -/
def parts (text : Text) : List Text := (splitSlashes text).1 :: (splitSlashes text).2

theorem steps_eq (path : String) :
    steps path = ((parts path.toList).filter (!·.isEmpty)).map String.ofList := rfl

theorem parts_append_slash (first last : Text) :
    parts (first ++ '/' :: last) = parts first ++ parts last := by
  induction first with
  | nil => simp [parts, splitSlashes]
  | cons c first ih =>
    obtain ⟨same, others⟩ := List.cons.inj ih
    by_cases slash : c = '/'
    · simp only [List.cons_append, parts, splitSlashes, slash, if_true, same, others]
      rfl
    · simp only [List.cons_append, parts, splitSlashes, slash, if_false, same, others]
      rfl

theorem parts_undivided {text : Text} (undivided : '/' ∉ text) : parts text = [text] := by
  induction text with
  | nil => rfl
  | cons c text ih =>
    obtain ⟨other, later⟩ := not_or.mp (mt List.mem_cons.mpr undivided)
    obtain ⟨same, none⟩ := List.cons.inj (ih later)
    simp [parts, splitSlashes, Ne.symm other, same, none]

theorem steps_slash {path : String} {first last : Text} (split : path.toList = first ++ '/' :: last) :
    steps path = steps (String.ofList first) ++ steps (String.ofList last) := by
  simp only [steps_eq, split, parts_append_slash, String.toList_ofList, List.filter_append,
    List.map_append]

theorem steps_undivided {name : String} (filled : name ≠ "") (undivided : '/' ∉ name.toList) :
    steps name = [name] := by
  have some_left : name.toList ≠ [] := by simpa using filled
  simp [steps_eq, parts_undivided undivided, some_left]

theorem steps_empty : steps "" = [] := rfl

/-- What is joined to a directory goes on from there. -/
theorem steps_join {directory path : String} (relative : isAbsolute path = false) :
    steps (join directory path) = steps directory ++ steps path := by
  simp only [join, relative, Bool.false_or]
  split
  · rename_i empty
    have same : directory = "" := by simpa using empty
    rw [same, steps_empty, List.nil_append]
  · split
    · rename_i slash
      obtain ⟨before, same⟩ := List.getLast?_eq_some_iff.mp (by simpa using slash)
      have whole : steps directory = steps (String.ofList before) ++ [] := steps_slash same
      rw [whole, List.append_nil]
      have joined : (directory ++ path).toList = before ++ '/' :: path.toList := by
        rw [String.toList_append, same, List.append_assoc, List.singleton_append]
      rw [steps_slash joined, String.ofList_toList]
    · have joined : (directory ++ "/" ++ path).toList = directory.toList ++ '/' :: path.toList := by
        rw [String.toList_append, String.toList_append, List.append_assoc]
        rfl
      rw [steps_slash joined, String.ofList_toList, String.ofList_toList]

theorem isAbsolute_join {directory path : String} (relative : isAbsolute path = false) :
    isAbsolute (join directory path) = isAbsolute directory := by
  simp only [join, relative, Bool.false_or]
  split
  · rename_i empty
    have same : directory = "" := by simpa using empty
    rw [relative, same]
    rfl
  · rename_i filled
    obtain ⟨c, rest, whole⟩ : ∃ c rest, directory.toList = c :: rest :=
      List.exists_cons_of_ne_nil (by simpa using filled)
    split <;> simp [isAbsolute, whole]

/-- A name that leads from a directory to something in it, on any system. -/
structure Ordinary (name : String) : Prop where
  filled : name ≠ ""
  notHere : name ≠ "."
  notUp : name ≠ ".."
  undivided : ∀ c ∈ name.toList, c ≠ '/' ∧ c ≠ '\\' ∧ c ≠ '\x00'

/-- A name is ordinary when something other than dots stands in it, and nothing that divides. -/
theorem Ordinary.of_mem {text : Text} {c : Char} (member : c ∈ text) (other : c ≠ '.')
    (undivided : ∀ c ∈ text, c ≠ '/' ∧ c ≠ '\\' ∧ c ≠ '\x00') : Ordinary (String.ofList text) := by
  have apart (dots : Text) (only : ∀ d ∈ dots, d = '.') : String.ofList text ≠ String.ofList dots :=
    fun same => other (only c (String.ofList_injective same ▸ member))
  refine ⟨apart [] (by simp), apart ['.'] (by simp), apart ['.', '.'] (by simp), ?_⟩
  rw [String.toList_ofList]
  exact undivided

/-- Whether no character of a text divides a path. -/
def isUndivided (text : Text) : Bool := text.all fun c => c != '/' && c != '\\' && c != '\x00'

theorem isUndivided_iff {text : Text} : isUndivided text = true ↔
    ∀ c ∈ text, c ≠ '/' ∧ c ≠ '\\' ∧ c ≠ '\x00' := by
  simp [isUndivided, and_assoc]

/-- A name is ordinary with an extension, whatever stands before that. -/
theorem Ordinary.of_extension {stem : String} {extension : Text}
    (undivided : ∀ c ∈ stem.toList, c ≠ '/' ∧ c ≠ '\\' ∧ c ≠ '\x00') {c : Char}
    (member : c ∈ extension) (other : c ≠ '.') (plain : isUndivided extension = true) :
    Ordinary (stem ++ String.ofList extension) := by
  rw [← String.ofList_toList (s := stem), ← String.ofList_append]
  refine of_mem (List.mem_append_right _ member) other fun c member => ?_
  exact (List.mem_append.mp member).elim (undivided c) (isUndivided_iff.mp plain c)

theorem Ordinary.steps {name : String} (ordinary : Ordinary name) : steps name = [name] :=
  steps_undivided ordinary.filled fun slash => (ordinary.undivided _ slash).1 rfl

theorem Ordinary.relative {name : String} (ordinary : Ordinary name) : isAbsolute name = false := by
  rw [isAbsolute, beq_eq_false_iff_ne]
  intro slash
  exact (ordinary.undivided _ (List.mem_of_mem_head? slash)).1 rfl

/-- A path that starts where a directory does, and goes on from there by some names. -/
structure Extends (directory path : String) (names : List String) : Prop where
  anchored : isAbsolute path = isAbsolute directory
  steps : Path.steps path = Path.steps directory ++ names

theorem extends_join {directory path : String} (relative : isAbsolute path = false) :
    Extends directory (join directory path) (Path.steps path) :=
  ⟨isAbsolute_join relative, steps_join relative⟩

end Path

namespace FileTree

open QuestRecords.Path

variable {tree : FileTree}

def follow (tree : FileTree) (path : String) : Except FileFault Place :=
  (Path.steps path).foldlM tree.step (tree.start path)

theorem step_ordinary {place next : Place} {name : String} (ordinary : Ordinary name)
    (made : tree.step place name = .ok next) : next = place ++ [name] := by
  rw [step] at made
  split at made
  · cases made
  · rw [if_neg ordinary.notHere, if_neg ordinary.notUp] at made
    split at made
    · cases made
    · split at made
      · cases made
      · exact (Except.ok.inj made).symm

theorem foldlM_step_ordinary {names : List String} (ordinary : ∀ name ∈ names, Ordinary name)
    {place last : Place} (made : names.foldlM tree.step place = .ok last) :
    last = place ++ names := by
  induction names generalizing place with
  | nil =>
    rw [List.append_nil]
    exact (Except.ok.inj made).symm
  | cons name names ih =>
    rw [List.foldlM_cons] at made
    cases stepped : tree.step place name with
    | error fault =>
      rw [stepped] at made
      cases made
    | ok next =>
      rw [stepped] at made
      have here := step_ordinary (ordinary name List.mem_cons_self) stepped
      have there := ih (fun other member => ordinary other (List.mem_cons_of_mem _ member)) made
      rw [there, here, List.append_assoc, List.singleton_append]

theorem start_extends {directory path : String} {names : List String}
    (goesOn : Extends directory path names) : tree.start path = tree.start directory := by
  rw [start, start, goesOn.anchored]

end FileTree
end QuestRecords
