import QuestRecords.Proofs.Batch.Visit
import QuestRecords.Proofs.Files.TreeWrites

/-! Where a checkout is read. The source of a quest lies two ordinary names below the root, and
nothing else is asked for, unless the name of the quest has no letter and no digit: then its class
has no name, and the path of its source leaves the root aside. -/
namespace QuestRecords

open Text QuestRecords.Path

namespace Naming

theorem classNameFrom_ne_nil (atStart : Bool) {text : Text} :
    classNameFrom atStart text ≠ [] ↔ ∃ c ∈ text, isAlphanumeric c = true := by
  induction text generalizing atStart with
  | nil => simp [classNameFrom]
  | cons c rest ih =>
    rw [classNameFrom]
    have notAlphanumeric (apostrophe : isApostrophe c = true) : isAlphanumeric c = false := by
      simp only [isApostrophe, Bool.or_eq_true, beq_iff_eq] at apostrophe
      rcases apostrophe with rfl | rfl <;> decide +kernel
    split
    · rename_i apostrophe
      simp [ih atStart, notAlphanumeric apostrophe]
    · split
      · rename_i alphanumeric
        have visible : c ≠ '\x00' := by
          rintro rfl
          exact absurd (alphanumeric.symm.trans foreign_null.notAlphanumeric) (by simp)
        have filled : (if atStart then upperChar c else [c]) ≠ [] := by
          split
          · exact (mapCase_visible staysVisible_upper visible).1
          · exact List.cons_ne_nil _ _
        simp [filled, alphanumeric]
      · rename_i other
        simp [ih true, other]

/-- A class has a name when a letter or a digit stands in the name of its quest. -/
theorem className_ne_nil {displayName : Text} :
    className displayName ≠ [] ↔ ∃ c ∈ displayName, isAlphanumeric c = true :=
  classNameFrom_ne_nil true

end Naming

namespace Text

theorem lower_ne_nil {text : Text} (filled : text ≠ []) (visible : '\x00' ∉ text) :
    lower text ≠ [] := by
  obtain ⟨c, ahead, rfl⟩ := List.exists_cons_of_ne_nil filled
  have shown : c ≠ '\x00' := fun null => visible (null ▸ List.mem_cons_self)
  rw [lower, lowerFrom]
  split
  · exact List.cons_ne_nil _ _
  · exact List.append_ne_nil_of_left_ne_nil (mapCase_visible staysVisible_lower shown).1 _

end Text

namespace LocalCheckout

def folderOf (className : String) : String := String.ofList (lower className.toList)

def fileOf (className : String) : String := className ++ ".java"

theorem toList_askedFor (displayName : String) :
    (askedFor displayName).toList = Naming.className displayName.toList := String.toList_ofList

theorem toList_fileOf (className : String) :
    (fileOf className).toList = className.toList ++ ".java".toList := String.toList_append

theorem foreign_notMem_class {d : Char} (foreign : Foreign d) (displayName : String) :
    d ∉ (askedFor displayName).toList :=
  toList_askedFor displayName ▸ foreign.notMem_classNameFrom true _

theorem foreign_notMem_folder {d : Char} (foreign : Foreign d) (displayName : String) :
    d ∉ lower (askedFor displayName).toList :=
  foreign.notMem_lowerFrom (foreign_notMem_class foreign displayName)

theorem ordinary_folder {displayName : String} (named : (askedFor displayName).toList ≠ []) :
    Ordinary (folderOf (askedFor displayName)) := by
  have filled := lower_ne_nil named (foreign_notMem_class foreign_null displayName)
  obtain ⟨c, member⟩ := List.exists_mem_of_ne_nil _ filled
  have native (d : Char) (foreign : Foreign d) := foreign_notMem_folder foreign displayName
  refine Ordinary.of_mem member ?_ (undivided_of_foreign native)
  rintro rfl
  exact native '.' (foreign_of_divider rfl) member

theorem ordinary_file (displayName : String) : Ordinary (fileOf (askedFor displayName)) := by
  have native := undivided_of_foreign fun d foreign => foreign_notMem_class foreign displayName
  rw [fileOf, ← String.ofList_toList (s := ".java")]
  exact Ordinary.of_extension native (c := 'j') (by decide) (by decide) (by decide)

/-- The path of a class that has a name goes on from the root by its directory and its file. -/
theorem path_extends (root : String) {displayName : String}
    (named : (askedFor displayName).toList ≠ []) :
    Extends root (path root (askedFor displayName))
      [folderOf (askedFor displayName), fileOf (askedFor displayName)] := by
  let className := askedFor displayName
  have folder := ordinary_folder named
  have whole : (String.ofList (Naming.sourcePath className.toList)).toList =
      (folderOf className).toList ++ '/' :: (fileOf className).toList := by
    simp [Naming.sourcePath, folderOf, toList_fileOf]
  have relative : isAbsolute (String.ofList (Naming.sourcePath className.toList)) = false := by
    obtain ⟨c, rest, first⟩ := List.exists_cons_of_ne_nil
      (show (folderOf className).toList ≠ [] by simpa using folder.filled)
    have other := (folder.undivided c (first ▸ List.mem_cons_self)).1
    simp [isAbsolute, whole, first, other]
  have names : steps (String.ofList (Naming.sourcePath className.toList)) =
      [folderOf className, fileOf className] := by
    rw [steps_slash whole, String.ofList_toList, String.ofList_toList, folder.steps,
      (ordinary_file displayName).steps]
    rfl
  exact names ▸ extends_join relative

theorem path_unnamed (root : String) {displayName : String}
    (unnamed : (askedFor displayName).toList = []) : path root (askedFor displayName) = "/.java" := by
  rw [path, unnamed]
  rfl

/-- That file lies below the root of all files, and two names below nothing. -/
theorem not_extends_unnamed (root folder file : String) : ¬ Extends root "/.java" [folder, file] := by
  intro goesOn
  have alone : steps "/.java" = [".java"] := by decide +kernel
  have lengths := congrArg List.length (alone.symm.trans goesOn.steps)
  simp at lengths

/-- A checkout is asked about the path of the class, and about no other. -/
theorem read_congr {m : Type → Type} [Monad m] {files other : FileAccess m} {root className : String}
    (kind : files.kind (path root className) = other.kind (path root className))
    (content : files.read (path root className) = other.read (path root className)) (limit : Nat) :
    read files root limit className = read other root limit className := by
  simp only [read, kind, content]

/-- The source of a quest is read two ordinary names below the root of a checkout, wherever that
leads, exactly when the name of the quest has a letter or a digit. Without one it is read from one
file below the root of all files, whatever the root of the checkout. -/
theorem read_inside_iff (root displayName : String) :
    let className := askedFor displayName
    let path := path root className
    ((∃ folder, Ordinary folder ∧ Ordinary (className ++ ".java") ∧
        Extends root path [folder, className ++ ".java"] ∧
        ∀ (tree : FileTree) (place : Place), tree.locate path = .ok place →
          ∃ base, tree.follow root = .ok base ∧ place = base ++ [folder, className ++ ".java"]) ↔
      ∃ c ∈ displayName.toList, isAlphanumeric c = true) ∧
    (path = "/.java" ↔ ∀ c ∈ displayName.toList, isAlphanumeric c = false) ∧
    ∀ {m : Type → Type} [Monad m] (files other : FileAccess m) (limit : Nat),
      files.kind path = other.kind path → files.read path = other.read path →
        read files root limit className = read other root limit className := by
  intro className path
  have named : className.toList ≠ [] ↔ ∃ c ∈ displayName.toList, isAlphanumeric c = true := by
    rw [toList_askedFor]
    exact Naming.className_ne_nil
  refine ⟨Iff.trans ⟨?_, fun filled => ?_⟩ named, ?_, fun files other limit kind content =>
    read_congr kind content limit⟩
  · rintro ⟨folder, -, -, goesOn, -⟩ unnamed
    rw [show path = "/.java" from path_unnamed root unnamed] at goesOn
    exact not_extends_unnamed _ _ _ goesOn
  · have ordinary : ∀ name ∈ [folderOf className, fileOf className], Ordinary name := by
      simp [ordinary_folder filled, ordinary_file, className]
    have goesOn := path_extends root filled
    exact ⟨folderOf className, ordinary_folder filled, ordinary_file displayName, goesOn,
      fun tree place found => FileTree.locate_extends goesOn ordinary found⟩
  · have unnamed : (∀ c ∈ displayName.toList, isAlphanumeric c = false) ↔ className.toList = [] := by
      rw [← not_iff_not, ← ne_eq, named]
      simp
    rw [unnamed]
    refine ⟨fun same => ?_, path_unnamed root⟩
    by_contra filled
    have goesOn := path_extends root filled
    rw [show LocalCheckout.path root (askedFor displayName) = "/.java" from same] at goesOn
    exact not_extends_unnamed _ _ _ goesOn

/-- A quest whose name is nothing but question marks is read from outside every checkout; one digit
more, and it is read from inside. -/
theorem read_outside : path "checkout" (askedFor "???") = "/.java" ∧
    (¬ ∃ folder file, Extends "checkout" (path "checkout" (askedFor "???")) [folder, file]) ∧
    ∃ folder, Ordinary folder ∧
      Extends "checkout" (path "checkout" (askedFor "??? 2")) [folder, "2.java"] := by
  have nameless : ("???".toList.all fun c => !isAlphanumeric c) = true := by decide +kernel
  have outside : path "checkout" (askedFor "???") = "/.java" :=
    (read_inside_iff "checkout" "???").2.1.mpr fun c member => by
      simpa using List.all_eq_true.mp nameless c member
  have digit : isAlphanumeric '2' = true := by decide +kernel
  obtain ⟨folder, ordinary, -, inside, -⟩ :=
    (read_inside_iff "checkout" "??? 2").1.mpr ⟨'2', by decide, digit⟩
  have named : askedFor "??? 2" = "2" := by decide +kernel
  refine ⟨outside, ?_, folder, ordinary, ?_⟩
  · rintro ⟨folder, file, goesOn⟩
    exact not_extends_unnamed _ _ _ (outside ▸ goesOn)
  · rw [named] at inside ⊢
    exact inside

end LocalCheckout
end QuestRecords
