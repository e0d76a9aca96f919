import QuestRecords.Proofs.Files.PathSteps

namespace QuestRecords

theorem exists_of_bind_ok {first : Except ε α} {next : α → Except ε β} {value : β}
    (done : first >>= next = .ok value) : ∃ middle, first = .ok middle ∧ next middle = .ok value := by
  cases first with
  | error fault => cases done
  | ok middle => exact ⟨middle, rfl, done⟩

theorem passed_of_guard_ok {ε α : Type} {refused : Prop} [Decidable refused] {fault : ε}
    {rest : Except ε α} {value : α}
    (done : (do { if refused then throw fault
                  rest } : Except ε α) = .ok value) : ¬ refused ∧ rest = .ok value := by
  by_cases holds : refused
  · rw [if_pos holds] at done
    cases done
  · rw [if_neg holds] at done
    exact ⟨holds, done⟩

namespace FileTree

open QuestRecords.Path

variable {tree : FileTree}

theorem lookup_replaced {entries : List (Place × FileEntry)} {place : Place} {old : FileEntry}
    (present : entries.lookup place = some old) (entry : FileEntry) (other : Place) :
    (entries.map fun old => if old.1 = place then (place, entry) else old).lookup other =
      if other = place then some entry else entries.lookup other := by
  have elsewhere (entries : List (Place × FileEntry)) (apart : other ≠ place) :
      (entries.map fun old => if old.1 = place then (place, entry) else old).lookup other =
        entries.lookup other := by
    induction entries with
    | nil => rfl
    | cons first entries ih =>
      obtain ⟨found, held⟩ := first
      rw [List.map_cons, List.lookup_cons]
      by_cases here : found = place
      · have passed : (other == place) = false := by simpa using apart
        rw [if_pos here, List.lookup_cons, ih, here, passed]
      · rw [if_neg here, List.lookup_cons, ih]
  by_cases same : other = place
  · subst same
    rw [if_pos rfl]
    induction entries with
    | nil => cases present
    | cons first entries ih =>
      obtain ⟨found, held⟩ := first
      rw [List.map_cons]
      by_cases here : found = other
      · rw [if_pos here, List.lookup_cons, beq_self_eq_true]
      · have passed : (other == found) = false := by simpa using Ne.symm here
        rw [List.lookup_cons, passed] at present
        rw [if_neg here, List.lookup_cons, passed]
        exact ih present
  · rw [if_neg same, elsewhere entries same]

theorem get?_put {place : Place} (below : place ≠ []) (entry : FileEntry) (other : Place) :
    (tree.put place entry).get? other = if other = place then some entry else tree.get? other := by
  by_cases root : other = []
  · rw [get?, get?, if_pos root, if_pos root, if_neg (root ▸ below.symm)]
  · rw [get?, get?, if_neg root, if_neg root, put]
    cases present : tree.entries.lookup place with
    | some old => exact lookup_replaced present entry other
    | none =>
      rw [Option.isSome_none, if_neg Bool.false_ne_true, List.lookup_append]
      by_cases same : other = place
      · simp [same, present]
      · have apart : (other == place) = false := by simpa using same
        simp [List.lookup_cons, apart, same]

/-- The content of the file at a place. -/
def fileAt? (tree : FileTree) (place : Place) : Option ByteArray :=
  match tree.get? place with
  | some (.file content) => some content
  | _ => none

/-- Both trees have the same files; directories may differ. -/
def SameFiles (before behind : FileTree) : Prop := ∀ place, behind.fileAt? place = before.fileAt? place

theorem sameFiles_put_directory {place : Place} {name : String}
    (vacant : tree.get? (place ++ [name]) = none) :
    SameFiles tree (tree.put (place ++ [name]) .directory) := by
  intro other
  rw [fileAt?, fileAt?, get?_put (by simp)]
  by_cases same : other = place ++ [name]
  · rw [if_pos same, same, vacant]
  · rw [if_neg same]

theorem get?_of_step_notFound {place : Place} {name : String}
    (missing : tree.step place name = .error .notFound) : tree.get? (place ++ [name]) = none := by
  rw [step] at missing
  split at missing
  · cases missing
  · split at missing
    · cases missing
    · split at missing
      · cases missing
      · split at missing
        · cases missing
        · split at missing
          · rename_i absent
            exact Option.isNone_iff_eq_none.mp absent
          · cases missing

theorem sameFiles_makeMissing (names : List String) (tree : FileTree) (place : Place) :
    SameFiles tree (tree.makeMissing place names).1 := by
  induction names generalizing tree place with
  | nil => exact fun _ => rfl
  | cons name names ih =>
    rw [makeMissing]
    split
    · split
      · exact ih tree _
      · exact fun _ => rfl
    · rename_i missing
      have made := sameFiles_put_directory (get?_of_step_notFound missing)
      exact fun other => (ih _ _ other).trans (made other)
    · exact fun _ => rfl

theorem sameFiles_makeDirectory {path : String} {made : FileTree}
    (done : tree.makeDirectory path = .ok made) : SameFiles tree made := by
  obtain ⟨⟨place, name⟩, -, rest⟩ := exists_of_bind_ok done
  obtain ⟨vacant, same⟩ := passed_of_guard_ok rest
  cases same
  rw [Bool.or_eq_true, not_or, Option.not_isSome_iff_eq_none] at vacant
  exact sameFiles_put_directory vacant.2

theorem sameFiles_makeDirectories (tree : FileTree) (path : String) :
    SameFiles tree (tree.makeDirectories path).1 := by
  rw [makeDirectories]
  split
  · exact fun _ => rfl
  · split
    · rename_i made done
      exact sameFiles_makeDirectory done
    · have parents := sameFiles_makeMissing (Path.names path).dropLast tree (tree.start path)
      dsimp only
      split
      · rename_i whole done
        obtain ⟨_, -, last⟩ := exists_of_bind_ok done
        exact fun other => (sameFiles_makeDirectory last other).trans (parents other)
      · exact parents
    · exact fun _ => rfl

/-- Where a path leads whose last step is an ordinary name in a directory. -/
theorem locateLast_extends {directory path name : String} (goesOn : Extends directory path [name])
    {place : Place} {last : String} (found : tree.locateLast path = .ok (place, last)) :
    tree.follow directory = .ok place ∧ last = name := by
  obtain ⟨_, -, walked⟩ := exists_of_bind_ok found
  rw [goesOn.steps, List.getLast?_concat, List.dropLast_concat, start_extends goesOn] at walked
  obtain ⟨base, followed, rest⟩ := exists_of_bind_ok walked
  obtain ⟨-, rest⟩ := passed_of_guard_ok rest
  obtain ⟨-, same⟩ := passed_of_guard_ok rest
  cases same
  exact ⟨followed, rfl⟩

/-- Writing to a path that adds one ordinary name to a directory gives the directory that file, and
changes no other. -/
theorem fileAt?_write {directory path name : String} (goesOn : Extends directory path [name])
    {content : ByteArray} {written : FileTree} (done : tree.write path content = .ok written) :
    ∃ base, tree.follow directory = .ok base ∧ ∀ place, written.fileAt? place =
      if place = base ++ [name] then some content else tree.fileAt? place := by
  obtain ⟨⟨base, last⟩, located, rest⟩ := exists_of_bind_ok done
  obtain ⟨followed, rfl⟩ := locateLast_extends goesOn located
  obtain ⟨-, same⟩ := passed_of_guard_ok rest
  cases same
  refine ⟨base, followed, fun place => ?_⟩
  rw [fileAt?, fileAt?, get?_put (by simp)]
  by_cases same : place = base ++ [last]
  · rw [if_pos same, if_pos same]
  · rw [if_neg same, if_neg same]

/-- A tree has all directories of another one, and something wherever that has something. -/
structure Within (tree larger : FileTree) : Prop where
  directories : ∀ place, tree.isDirectoryAt place = true → larger.isDirectoryAt place = true
  entries : ∀ place, tree.get? place ≠ none → larger.get? place ≠ none

/-- A file put in a place of no directory keeps all that can be walked over. -/
theorem within_put {place : Place} {name : String} {content : ByteArray}
    (file : tree.isDirectoryAt (place ++ [name]) = false) :
    Within tree (tree.put (place ++ [name]) (.file content)) where
  directories other directory := by
    have apart : other ≠ place ++ [name] := by
      rintro rfl
      cases file.symm.trans directory
    rwa [isDirectoryAt, get?_put (by simp), if_neg apart]
  entries other present := by
    rw [get?_put (by simp)]
    split
    · exact Option.some_ne_none _
    · exact present

theorem Within.step {larger : FileTree} (within : Within tree larger) {place next : Place}
    {name : String} (stepped : tree.step place name = .ok next) :
    larger.step place name = .ok next := by
  rw [FileTree.step] at stepped ⊢
  split at stepped
  · cases stepped
  rename_i directory
  rw [within.directories place (by simpa using directory), if_neg (by decide)]
  split at stepped
  · rename_i here
    rwa [if_pos here]
  rename_i notHere
  rw [if_neg notHere]
  split at stepped
  · rename_i up
    rwa [if_pos up]
  rename_i notUp
  rw [if_neg notUp]
  split at stepped
  · cases stepped
  rename_i short
  rw [if_neg short]
  split at stepped
  · cases stepped
  rename_i present
  have there := within.entries (place ++ [name]) (by simpa using present)
  rwa [if_neg (by simpa using there)]

/-- A step from a directory to something of an ordinary length in it. -/
theorem step_to {place : Place} {name : String} (directory : tree.isDirectoryAt place = true)
    (plain : isDots name = false) (short : ¬ nameLimit < name.utf8ByteSize)
    (present : tree.get? (place ++ [name]) ≠ none) :
    tree.step place name = .ok (place ++ [name]) := by
  rw [isDots, Bool.or_eq_false_iff, decide_eq_false_iff_not, decide_eq_false_iff_not] at plain
  rw [FileTree.step, directory, if_neg (by decide), if_neg plain.1, if_neg plain.2, if_neg short,
    if_neg (by simpa using present)]

theorem Within.foldlM_step {larger : FileTree} (within : Within tree larger) {names : List String}
    {place last : Place} (walked : names.foldlM tree.step place = .ok last) :
    names.foldlM larger.step place = .ok last := by
  induction names generalizing place with
  | nil => exact walked
  | cons name names ih =>
    obtain ⟨next, stepped, rest⟩ := exists_of_bind_ok walked
    rw [List.foldlM_cons, within.step stepped]
    exact ih rest

theorem walk_of_locateLast {path name : String} {place : Place}
    (found : tree.locateLast path = .ok (place, name)) :
    checkPath path = .ok () ∧ ¬ nameLimit < name.utf8ByteSize ∧ tree.isDirectoryAt place = true ∧
      ∃ names, Path.steps path = names ++ [name] ∧
        names.foldlM tree.step (tree.start path) = .ok place := by
  obtain ⟨_, checked, walked⟩ := exists_of_bind_ok found
  cases last : (Path.steps path).getLast? with
  | none =>
    rw [last] at walked
    cases walked
  | some final =>
    rw [last] at walked
    obtain ⟨base, followed, rest⟩ := exists_of_bind_ok walked
    obtain ⟨directory, rest⟩ := passed_of_guard_ok rest
    obtain ⟨short, same⟩ := passed_of_guard_ok rest
    cases same
    obtain ⟨names, split⟩ := List.getLast?_eq_some_iff.mp last
    rw [split, List.dropLast_concat] at followed
    exact ⟨checked, short, by simpa using directory, names, split, followed⟩

/-- What was written to a path is read from it. -/
theorem read_write {path : String} {content : ByteArray} {written : FileTree}
    (done : tree.write path content = .ok written) : written.read path = .ok content := by
  obtain ⟨⟨place, name⟩, located, rest⟩ := exists_of_bind_ok done
  obtain ⟨allowed, same⟩ := passed_of_guard_ok rest
  cases same
  obtain ⟨checked, short, directory, names, split, walked⟩ := walk_of_locateLast located
  simp only [Bool.or_eq_true, not_or, Bool.not_eq_true] at allowed
  obtain ⟨⟨plain, noSlash⟩, file⟩ := allowed
  let written := tree.put (place ++ [name]) (.file content)
  have within : Within tree written := within_put file
  have here : written.get? (place ++ [name]) = some (.file content) := by
    rw [get?_put (by simp), if_pos rfl]
  have reached : (Path.steps path).foldlM written.step (written.start path) =
      .ok (place ++ [name]) := by
    have front : names.foldlM written.step (written.start path) = .ok place :=
      within.foldlM_step walked
    have last : written.step place name = .ok (place ++ [name]) :=
      step_to (within.directories place directory) plain short (here ▸ Option.some_ne_none _)
    rw [split, List.foldlM_append, front]
    change (written.step place name >>= pure) = _
    rw [last]
    rfl
  have found : written.locate path = .ok (place ++ [name]) := by
    simp only [locate, checked, reached, noSlash, Bool.false_and]
    rfl
  have entry : written.entry path = .ok (.file content) := by
    simp only [FileTree.entry, found, bind, Except.bind, here]
    rfl
  change written.read path = .ok content
  rw [read, entry]
  rfl

/-- What is found at a path that adds ordinary names to a directory lies as many places below that
to which the directory leads. -/
theorem locate_extends {directory path : String} {names : List String}
    (goesOn : Extends directory path names) (ordinary : ∀ name ∈ names, Ordinary name)
    {place : Place} (found : tree.locate path = .ok place) :
    ∃ base, tree.follow directory = .ok base ∧ place = base ++ names := by
  obtain ⟨_, -, walked⟩ := exists_of_bind_ok found
  obtain ⟨last, steps, rest⟩ := exists_of_bind_ok walked
  rw [goesOn.steps, List.foldlM_append, start_extends goesOn] at steps
  obtain ⟨base, followed, within⟩ := exists_of_bind_ok steps
  refine ⟨base, followed, ?_⟩
  obtain ⟨-, same⟩ := passed_of_guard_ok rest
  rw [← foldlM_step_ordinary ordinary within]
  exact (Except.ok.inj same).symm

end FileTree
end QuestRecords
