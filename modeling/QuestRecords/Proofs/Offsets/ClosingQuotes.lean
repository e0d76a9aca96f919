import QuestRecords.Proofs.Offsets.Literals
import QuestRecords.Proofs.Source.LiteralArguments

/-! Where a literal ends. One scan goes from quote to quote over bytes, and jumps over one byte behind
a backslash; the other reads characters, and takes a whole one behind a backslash. No byte of a long
character is taken for a quote or a backslash, so both come to the same quote, or to none. -/
namespace QuestRecords.Offsets

open Text Source

/-- The pieces of a text and its literals close at the same quote. -/
theorem quotedTail?_rest (text : Text) :
    (Piece.quotedTail? '"' text).map (·.2) = (Literal.fragment? text).map (·.2) := by
  fun_induction Piece.quotedTail? '"' text with
  | case1 => rfl
  | case2 c rest ih =>
    rw [Literal.fragment?, Option.map_map, Option.map_map]
    exact ih
  | case3 rest => rfl
  | case4 c rest noPair other ih =>
    rw [Literal.fragment?, Option.map_map, Option.map_map]
    · exact ih
    · exact other
    · exact noPair

theorem width_quotedTail? (body : Text) :
    (Piece.quotedTail? '"' body).map (fun tail => width tail.1) =
      (Literal.fragment? body).map fun found => width (upTo body found.2) := by
  have same := congrArg (Option.map fun rest => width (upTo body rest)) (quotedTail?_rest body)
  rw [Option.map_map, Option.map_map] at same
  refine Eq.trans ?_ same
  cases read : Piece.quotedTail? '"' body with
  | none => rfl
  | some parts =>
    obtain ⟨raw, after⟩ := parts
    obtain rfl := Piece.quotedTail?_eq_append read
    simp [upTo_append]

/-- What both scans give at an opening quote, by the readers of pieces and of fragments. -/
structure Closing (before body : Text) (closing : Option Nat) (read : Option (Text × Nat)) :
    Prop where
  skipped : skipQuoted (before ++ '"' :: body) (width before) = .ok closing
  fragment : readFragment (before ++ '"' :: body) (width before) = .ok read
  closing_eq : closing.map (· + 1) =
    (Piece.quotedTail? '"' body).map fun tail => width before + width ('"' :: tail.1)
  read_eq : read = (Literal.fragment? body).map fun found =>
    (found.1, width before + width ('"' :: upTo body found.2))

theorem exists_closing (before body : Text) : ∃ closing read, Closing before body closing read := by
  obtain ⟨closing, skipped, ends⟩ := skipQuoted_append (q := '"') rfl before body
  refine ⟨closing, _, skipped, ?_, ends, rfl⟩
  rw [readFragment_append]
  simp [Nat.add_assoc]

section

variable {before body : Text} {closing : Option Nat} {read : Option (Text × Nat)}

theorem Closing.same (scans : Closing before body closing read) :
    closing.map (· + 1) = read.map (·.2) := by
  have shifted := congrArg (Option.map fun inner => width before + ('"'.utf8Size + inner))
    (width_quotedTail? body)
  rw [Option.map_map, Option.map_map] at shifted
  rw [scans.closing_eq, scans.read_eq, Option.map_map]
  simpa only [Function.comp_def, width_cons] using shifted

theorem Closing.none_iff (scans : Closing before body closing read) :
    closing = none ↔ read = none := by
  rw [← Option.map_eq_none_iff (f := (· + 1)), scans.same, Option.map_eq_none_iff]

theorem Closing.some_iff (scans : Closing before body closing read) {stop : Nat} :
    closing = some stop ↔ ∃ value, read = some (value, stop + 1) := by
  have shifted : closing = some stop ↔ closing.map (· + 1) = some (stop + 1) := by simp
  rw [shifted, scans.same, Option.map_eq_some_iff]
  simp

/-- Neither scan finds an end exactly where a fragment is never closed. -/
theorem Closing.unclosed_iff (scans : Closing before body closing read) :
    closing = none ↔ Literal.Unclosed ('"' :: body) := by
  rw [scans.none_iff, scans.read_eq, Option.map_eq_none_iff, Literal.fragment?_eq_none_iff]

end

/-- From every opening quote both scans return. The one over bytes finds a quote exactly when the one
over characters ends behind it. They fail together, exactly where the literal is never closed, be it
that the text ends with a backslash. They end where the readers of pieces and of fragments end. -/
theorem scans_close_together (text : Text) (opening : Nat) (opens : holds text opening '"' = true) :
    ∃ closing read, skipQuoted text opening = .ok closing ∧
      readFragment text opening = .ok read ∧
      (∀ stop, closing = some stop ↔ ∃ value, read = some (value, stop + 1)) ∧
      (closing = none ↔ read = none) ∧
      (closing = none ↔ ∃ before rest, text = before ++ rest ∧ width before = opening ∧
        Literal.Unclosed rest) ∧
      ∀ before body, text = before ++ '"' :: body → width before = opening →
        closing.map (· + 1) =
          (Piece.quotedTail? '"' body).map (fun tail => opening + width ('"' :: tail.1)) ∧
        read = (Literal.fragment? body).map fun found =>
          (found.1, opening + width ('"' :: upTo body found.2)) := by
  obtain ⟨before, body, rfl, rfl⟩ := exists_append_of_holds opens
  obtain ⟨closing, read, scans⟩ := exists_closing before body
  refine ⟨closing, read, scans.skipped, scans.fragment, fun stop => scans.some_iff, scans.none_iff,
    ?_, ?_⟩
  · rw [scans.unclosed_iff]
    constructor
    · exact fun ending => ⟨before, _, rfl, rfl, ending⟩
    · rintro ⟨left, rest, split, wide, ending⟩
      obtain ⟨rfl, rfl⟩ := append_inj_of_width split wide.symm
      exact ending
  · intro left rest split wide
    obtain ⟨rfl, same⟩ := append_inj_of_width split wide.symm
    cases same
    exact ⟨scans.closing_eq, scans.read_eq⟩

/-- A long character behind a backslash is passed over; a backslash at the end leaves the literal
open. -/
theorem scans_close_together_escaped :
    holds ['x', '"', '\\', 'é', '"'] 1 '"' = true ∧
    skipQuoted ['x', '"', '\\', 'é', '"'] 1 = .ok (some 5) ∧
    holds ['"', 'é', '\\'] 0 '"' = true ∧ skipQuoted ['"', 'é', '\\'] 0 = .ok none := by
  have opens : holds ['x', '"', '\\', 'é', '"'] 1 '"' = true := rfl
  have cut : holds ['"', 'é', '\\'] 0 '"' = true := rfl
  obtain ⟨closing, read, skipped, fragment, found, -⟩ := scans_close_together _ 1 opens
  obtain ⟨missing, unread, skipped', fragment', -, together, -⟩ := scans_close_together _ 0 cut
  refine ⟨opens, ?_, cut, ?_⟩
  · cases fragment
    rw [skipped, (found 5).mpr ⟨['é'], rfl⟩]
  · cases fragment'
    rw [skipped', together.mpr rfl]

end QuestRecords.Offsets
