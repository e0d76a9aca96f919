import Mathlib.Data.List.Forall2
import Mathlib.Data.List.TakeWhile
import QuestRecords.Proofs.Source.LiteralArguments
import QuestRecords.Proofs.Text.Spans

/-! Arguments are cut in one way only. Between two separating commas there is a text that closes
every literal and bracket it opens and has no comma outside of them; behind the last one anything may
stand that has no further separating comma. A text is the joining of such arguments in one way, and
that way is the one in which it is cut. -/
namespace QuestRecords.Source

open Text

namespace Piece

/-- How many brackets the pieces leave open; it is below zero when more are closed. -/
def openAfter : List Piece → Int
  | [] => 0
  | piece :: pieces => piece.nesting + openAfter pieces

/-- No comma stands where no bracket is open, with `depth` brackets open before the pieces. -/
def Uncut (depth : Int) (pieces : List Piece) : Prop :=
  ∀ front behind, pieces = front ++ plain ',' :: behind → depth + openAfter front ≠ 0

section

variable {depth : Int} {piece : Piece} {pieces left right : List Piece}

theorem openAfter_nil : openAfter [] = 0 := rfl

theorem openAfter_cons : openAfter (piece :: pieces) = piece.nesting + openAfter pieces := rfl

theorem openAfter_append : openAfter (left ++ right) = openAfter left + openAfter right := by
  induction left with
  | nil => rw [List.nil_append, openAfter_nil, Int.zero_add]
  | cons piece left ih => rw [List.cons_append, openAfter_cons, openAfter_cons, ih, Int.add_assoc]

theorem uncut_nil : Uncut depth [] := by
  intro front behind same
  exact absurd same.symm (by simp)

theorem uncut_cons_iff : Uncut depth (piece :: pieces) ↔
    ¬ (piece = plain ',' ∧ depth = 0) ∧ Uncut (depth + piece.nesting) pieces := by
  constructor
  · intro uncut
    constructor
    · rintro ⟨rfl, rfl⟩
      exact uncut [] pieces rfl rfl
    · intro front behind same
      have deeper := uncut (piece :: front) behind (by rw [same, List.cons_append])
      rwa [openAfter_cons, ← Int.add_assoc] at deeper
  · rintro ⟨first, others⟩ front behind same
    cases front with
    | nil =>
      intro level
      exact first ⟨(List.cons.inj same).1, by rwa [openAfter_nil, Int.add_zero] at level⟩
    | cons next front =>
      obtain ⟨rfl, rest⟩ := List.cons.inj same
      rw [openAfter_cons, ← Int.add_assoc]
      exact others front behind rest

theorem uncut_append_iff : Uncut depth (left ++ right) ↔
    Uncut depth left ∧ Uncut (depth + openAfter left) right := by
  induction left generalizing depth with
  | nil => simp [uncut_nil, openAfter_nil]
  | cons piece left ih =>
    rw [List.cons_append, uncut_cons_iff, uncut_cons_iff, ih, openAfter_cons, Int.add_assoc,
      and_assoc]

end

section

variable {pieces : List Piece} {text rest : Text}

theorem split_join_append (proper : ∀ piece ∈ pieces, Proper piece) (rest : Text) :
    split (join pieces ++ rest) = (pieces ++ (split rest).1, (split rest).2) := by
  induction pieces with
  | nil => rfl
  | cons piece pieces ih =>
    obtain ⟨first, others⟩ := List.forall_mem_cons.mp proper
    rw [join_cons, List.append_assoc, split_of_next? (first _), ih others]
    rfl

theorem split_join (proper : ∀ piece ∈ pieces, Proper piece) :
    split (join pieces) = (pieces, []) := by
  have ended : split [] = ([], []) := split_of_next?_none rfl
  have whole := split_join_append proper []
  rwa [ended, List.append_nil, List.append_nil] at whole

theorem Complete.split_append (complete : Complete text) (rest : Text) :
    split (text ++ rest) = ((split text).1 ++ (split rest).1, (split rest).2) := by
  have joined := split_join_append (proper_of_mem_split text) rest
  rwa [complete.join_eq] at joined

theorem next?_split (text : Text) : next? (split text).2 = none := by
  fun_induction split text with
  | case1 text missing => exact missing
  | case2 text piece rest read pieces unclosed cut ih =>
    rw [cut] at ih
    exact ih

end

end Piece

/-- A text that closes its literals and leaves as many brackets open as there are before it, and in
which no comma separates when `depth` are open before it. -/
structure Level (depth : Int) (text : Text) : Prop where
  closed : Piece.Complete text
  even : Piece.openAfter (Piece.split text).1 = 0
  uncut : Piece.Uncut depth (Piece.split text).1

/-- A text whose literals are all closed, that leaves no bracket open and has no comma where none is
open. -/
abbrev SelfContained (text : Text) : Prop := Level 0 text

/-- Texts that stand between separating commas. The last of them may leave a literal or a bracket
open. -/
inductive Separated : List Text → Prop where
  | last (uncut : Piece.Uncut 0 (Piece.split text).1) : Separated [text]
  | cut (whole : SelfContained text) (others : Separated texts) : Separated (text :: texts)

namespace Level

variable {depth : Int}

theorem nil : Level depth [] := by
  have ended : Piece.split [] = ([], []) := Piece.split_of_next?_none rfl
  constructor
  · exact Piece.complete_nil
  · rw [ended, Piece.openAfter_nil]
  · rw [ended]
    exact Piece.uncut_nil

theorem append (first : Level depth left) (later : Level depth right) :
    Level depth (left ++ right) := by
  have whole := first.closed.split_append right
  constructor
  · rw [Piece.Complete, whole]
    exact later.closed
  · rw [whole, Piece.openAfter_append, first.even, later.even, Int.add_zero]
  · rw [whole, Piece.uncut_append_iff, first.even, Int.add_zero]
    exact ⟨first.uncut, later.uncut⟩

theorem of_piece {piece : Piece} (proper : piece.Proper) (even : piece.nesting = 0)
    (notCut : ¬ (piece = .plain ',' ∧ depth = 0)) : Level depth piece.text := by
  have whole := Piece.split_join (List.forall_mem_singleton.mpr proper)
  rw [Piece.join_cons, Piece.join_nil, List.append_nil] at whole
  constructor
  · rw [Piece.Complete, whole]
  · rw [whole, Piece.openAfter_cons, even, Piece.openAfter_nil, Int.add_zero]
  · rw [whole, Piece.uncut_cons_iff]
    exact ⟨notCut, Piece.uncut_nil⟩

/-- Between parentheses one bracket more is open. -/
theorem enclosed (inside : Level (depth + 1) text) : Level depth ('(' :: (text ++ [')'])) := by
  have opens : Piece.next? ('(' :: (text ++ [')'])) = some (.plain '(', text ++ [')']) := rfl
  have opening : (Piece.plain '(').nesting = 1 := rfl
  have closing : (Piece.plain ')').nesting = -1 := rfl
  have last : Piece.split [')'] = ([.plain ')'], []) :=
    Piece.split_join (List.forall_mem_singleton.mpr (Piece.proper_plain rfl))
  have whole := Piece.split_of_next? opens
  rw [inside.closed.split_append, last] at whole
  constructor
  · rw [Piece.Complete, whole]
  · rw [whole, Piece.openAfter_cons, Piece.openAfter_append, Piece.openAfter_cons, inside.even,
      opening, closing, Piece.openAfter_nil]
    rfl
  · rw [whole, Piece.uncut_cons_iff, Piece.uncut_append_iff, Piece.uncut_cons_iff, opening]
    exact ⟨by simp, inside.uncut, by simp, Piece.uncut_nil⟩

theorem of_blank {blanks : Text} (blank : ∀ c ∈ blanks, isBlank c = true) :
    Level depth blanks := by
  induction blanks with
  | nil => exact nil
  | cons c blanks ih =>
    obtain ⟨first, others⟩ := List.forall_mem_cons.mp blank
    have proper : (Piece.plain c).Proper := Piece.proper_plain (Piece.isQuote_of_isBlank first)
    have even : (Piece.plain c).nesting = 0 := by
      rw [Piece.nesting, if_neg, if_neg]
      · rintro (rfl | rfl | rfl) <;> exact absurd first (by decide)
      · rintro (rfl | rfl | rfl) <;> exact absurd first (by decide)
    have notCut : ¬ (Piece.plain c = .plain ',' ∧ depth = 0) := by
      rintro ⟨⟨⟩, -⟩
      exact absurd first (by decide)
    exact (of_piece proper even notCut).append (ih others)

end Level

section

variable {depth : Int} {text rest current : Text} {pieces : List Piece}

theorem groupsFrom_of_next?_none (missing : Piece.next? text = none) (current : Text) :
    Offsets.groupsFrom depth current text = [current ++ text] := by
  rw [Offsets.groupsFrom]
  split
  · rfl
  · simp_all

theorem groupsFrom_of_next? {piece : Piece} (read : Piece.next? text = some (piece, rest))
    (notCut : ¬ (piece = .plain ',' ∧ depth = 0)) (current : Text) :
    Offsets.groupsFrom depth current text =
      Offsets.groupsFrom (depth + piece.nesting) (current ++ piece.text) rest := by
  rw [Offsets.groupsFrom]
  split
  · simp_all
  · rename_i read'
    cases read.symm.trans read'
    rw [if_neg notCut]

theorem groupsFrom_comma (current rest : Text) :
    Offsets.groupsFrom 0 current (',' :: rest) = current :: Offsets.groupsFrom 0 [] rest := by
  have read : Piece.next? (',' :: rest) = some (.plain ',', rest) := rfl
  rw [Offsets.groupsFrom]
  split
  · simp_all
  · rename_i read'
    cases read.symm.trans read'
    rw [if_pos ⟨rfl, rfl⟩]

/-- Pieces among which no comma separates belong to one group. -/
theorem groupsFrom_join_append (proper : ∀ piece ∈ pieces, Piece.Proper piece)
    (uncut : Piece.Uncut depth pieces) (current rest : Text) :
    Offsets.groupsFrom depth current (Piece.join pieces ++ rest) =
      Offsets.groupsFrom (depth + Piece.openAfter pieces) (current ++ Piece.join pieces) rest := by
  induction pieces generalizing depth current with
  | nil => simp [Piece.openAfter_nil]
  | cons piece pieces ih =>
    obtain ⟨first, others⟩ := List.forall_mem_cons.mp proper
    obtain ⟨notCut, later⟩ := Piece.uncut_cons_iff.mp uncut
    rw [Piece.join_cons, List.append_assoc, groupsFrom_of_next? (first _) notCut, ih others later,
      Piece.openAfter_cons, Int.add_assoc, List.append_assoc]

theorem groupsFrom_of_uncut (uncut : Piece.Uncut depth (Piece.split text).1) :
    Offsets.groupsFrom depth current text = [current ++ text] := by
  have whole := Piece.join_split text
  have passed := groupsFrom_join_append (Piece.proper_of_mem_split text) uncut current
    (Piece.split text).2
  rwa [whole, groupsFrom_of_next?_none (Piece.next?_split text), List.append_assoc, whole] at passed

/-- A comma behind a text that stands by itself separates. -/
theorem groupsFrom_append_comma (whole : SelfContained text) (rest : Text) :
    Offsets.groupsFrom 0 [] (text ++ ',' :: rest) = text :: Offsets.groupsFrom 0 [] rest := by
  have passed := groupsFrom_join_append (Piece.proper_of_mem_split text) whole.uncut []
    (',' :: rest)
  rwa [whole.closed.join_eq, whole.even, Int.add_zero, List.nil_append, groupsFrom_comma] at passed

theorem groupsFrom_ne_nil (depth : Int) (current rest : Text) :
    Offsets.groupsFrom depth current rest ≠ [] := by
  fun_induction Offsets.groupsFrom depth current rest with
  | case1 => exact List.cons_ne_nil _ _
  | case2 => exact List.cons_ne_nil _ _
  | case3 depth current rest piece tail read notCut ih => exact ih

theorem intercalate_groupsFrom :
    [','].intercalate (Offsets.groupsFrom depth current rest) = current ++ rest := by
  fun_induction Offsets.groupsFrom depth current rest with
  | case1 => exact List.intercalate_singleton
  | case2 depth current rest piece tail read cut ih =>
    obtain ⟨rfl, rfl⟩ := cut
    obtain ⟨next, others, same⟩ := List.exists_cons_of_ne_nil (groupsFrom_ne_nil 0 [] tail)
    rw [same] at ih ⊢
    rw [List.intercalate_cons_cons, ih, Piece.next?_eq_append read]
    simp [Piece.text]
  | case3 depth current rest piece tail read notCut ih =>
    rw [ih, Piece.next?_eq_append read, List.append_assoc]

/-- Every group that is cut off stands by itself, when the pieces read for the first one do not
separate. -/
theorem separated_groupsFrom {done : List Piece} (proper : ∀ piece ∈ done, Piece.Proper piece)
    (uncut : Piece.Uncut 0 done) (level : Piece.openAfter done = depth)
    (read : Piece.join done = current) : Separated (Offsets.groupsFrom depth current rest) := by
  fun_induction Offsets.groupsFrom depth current rest generalizing done with
  | case1 depth current rest missing =>
    subst read
    apply Separated.last
    rw [Piece.split_join_append proper, Piece.split_of_next?_none missing, List.append_nil]
    exact uncut
  | case2 depth current rest piece tail next cut ih =>
    obtain ⟨rfl, rfl⟩ := cut
    subst read
    have whole := Piece.split_join proper
    have first : SelfContained (Piece.join done) :=
      ⟨Piece.complete_join proper, by rw [whole, level], by rwa [whole]⟩
    exact .cut first (ih (List.forall_mem_nil _) Piece.uncut_nil rfl rfl)
  | case3 depth current rest piece tail next notCut ih =>
    subst level read
    refine @ih (done ++ [piece]) ?_ ?_ ?_ ?_
    · exact List.forall_mem_append.mpr
        ⟨proper, List.forall_mem_singleton.mpr (Piece.proper_of_next? next)⟩
    · rw [Piece.uncut_append_iff, Piece.uncut_cons_iff, Int.zero_add]
      exact ⟨uncut, notCut, Piece.uncut_nil⟩
    · rw [Piece.openAfter_append, Piece.openAfter_cons, Piece.openAfter_nil, Int.add_zero]
    · rw [Piece.join, Piece.join, List.flatMap_append, List.flatMap_singleton]

end

theorem Separated.rawArguments_eq {texts : List Text} (separated : Separated texts) :
    rawArguments ([','].intercalate texts) = texts := by
  rw [Offsets.rawArguments_eq]
  induction separated with
  | last uncut => rw [List.intercalate_singleton, groupsFrom_of_uncut uncut, List.nil_append]
  | @cut text texts whole others ih =>
    cases texts with
    | nil => cases others
    | cons next texts =>
      rw [List.intercalate_cons_cons, List.append_assoc, List.singleton_append,
        groupsFrom_append_comma whole, ih]

theorem separated_rawArguments (text : Text) : Separated (rawArguments text) := by
  rw [Offsets.rawArguments_eq]
  exact separated_groupsFrom (List.forall_mem_nil _) Piece.uncut_nil rfl rfl

theorem intercalate_rawArguments (text : Text) : [','].intercalate (rawArguments text) = text := by
  rw [Offsets.rawArguments_eq, intercalate_groupsFrom, List.nil_append]

/-- A text with blanks before and behind it. -/
def Padded (text padded : Text) : Prop :=
  ∃ before behind, (∀ c ∈ before, isBlank c = true) ∧ (∀ c ∈ behind, isBlank c = true) ∧
    padded = before ++ text ++ behind

theorem Padded.trim_eq {text padded : Text} (around : Padded text padded) :
    trim padded = trim text := by
  obtain ⟨before, behind, first, last, rfl⟩ := around
  rw [trim, trim, trimStart, trimStart, skipBlanks, skipBlanks, List.append_assoc,
    List.dropWhile_append_of_pos first, List.dropWhile_append]
  split
  · rename_i blank
    rw [List.dropWhile_eq_nil_iff.mpr last, List.isEmpty_iff.mp blank]
  · rw [trimEnd, trimEnd, List.reverse_append,
      List.dropWhile_append_of_pos fun c member => last c (List.mem_reverse.mp member)]

theorem Padded.selfContained {text padded : Text} (around : Padded text padded)
    (whole : SelfContained text) : SelfContained padded := by
  obtain ⟨before, behind, first, last, rfl⟩ := around
  exact ((Level.of_blank first).append whole).append (.of_blank last)

theorem trim_eq_nil_iff {text : Text} : trim text = [] ↔ ∀ c ∈ text, isBlank c = true := by
  constructor
  · intro none c member
    obtain ⟨tail, blank, same⟩ := trim_split text
    rw [none, List.append_nil] at same
    rw [same] at member
    rcases List.mem_append.mp member with start | ending
    · exact passes_takeWhile isBlank text c start
    · exact blank c ending
  · intro blank
    have around : Padded [] text := ⟨text, [], blank, List.forall_mem_nil _, by simp⟩
    exact around.trim_eq

/-- Texts that stand by themselves are separated by the commas between them. -/
theorem separated_of_selfContained {texts : List Text} (filled : texts ≠ [])
    (whole : ∀ text ∈ texts, SelfContained text) : Separated texts := by
  induction texts with
  | nil => exact absurd rfl filled
  | cons text texts ih =>
    obtain ⟨first, others⟩ := List.forall_mem_cons.mp whole
    cases texts with
    | nil => exact .last first.uncut
    | cons next texts => exact .cut first (ih (List.cons_ne_nil next texts) others)

theorem splitArguments_eq_nil_iff {text : Text} :
    splitArguments text = [] ↔ ∀ c ∈ text, isBlank c = true := by
  rw [splitArguments, ← trim_eq_nil_iff]
  constructor
  · intro none
    split at none
    · rename_i sole
      obtain ⟨raw, same, blank⟩ := List.map_eq_singleton_iff.mp sole
      have whole := intercalate_rawArguments text
      rw [same, List.intercalate_singleton] at whole
      rwa [← whole]
    · rw [List.map_eq_nil_iff, Offsets.rawArguments_eq] at none
      exact absurd none (groupsFrom_ne_nil 0 [] text)
  · intro none
    have whole : SelfContained text := .of_blank (trim_eq_nil_iff.mp none)
    have sole := (Separated.last whole.uncut).rawArguments_eq
    rw [List.intercalate_singleton] at sole
    rw [sole, List.map_singleton, none, if_pos rfl]

theorem trimmed_of_padded {parts raws : List Text}
    (whole : ∀ part ∈ parts, trim part = part ∧ SelfContained part)
    (padded : List.Forall₂ Padded parts raws) :
    raws.map trim = parts ∧ ∀ raw ∈ raws, SelfContained raw := by
  induction padded with
  | nil => exact ⟨rfl, List.forall_mem_nil _⟩
  | cons around others ih =>
    obtain ⟨⟨trimmed, first⟩, later⟩ := List.forall_mem_cons.mp whole
    obtain ⟨same, wholes⟩ := ih later
    refine ⟨?_, List.forall_mem_cons.mpr ⟨around.selfContained first, wholes⟩⟩
    rw [List.map_cons, around.trim_eq, trimmed, same]

theorem splitArguments_of_padded {parts raws : List Text} (filled : parts ≠ [])
    (notBlank : parts ≠ [[]]) (whole : ∀ part ∈ parts, trim part = part ∧ SelfContained part)
    (padded : List.Forall₂ Padded parts raws) :
    splitArguments ([','].intercalate raws) = parts := by
  obtain ⟨trimmed, wholes⟩ := trimmed_of_padded whole padded
  have some : raws ≠ [] := by
    rintro rfl
    exact filled trimmed.symm
  rw [splitArguments, (separated_of_selfContained some wholes).rawArguments_eq, trimmed,
    if_neg notBlank]

/-- Cutting undoes joining, with blanks around each part. Whatever the text, joining its uncut parts
gives it back; these parts are the only ones that have nothing between them but separating commas,
and the arguments are these parts trimmed, or none when all of the text is blank. -/
theorem splitArguments_exact :
    (∀ parts raws, parts ≠ [] → parts ≠ [[]] →
      (∀ part ∈ parts, trim part = part ∧ SelfContained part) → List.Forall₂ Padded parts raws →
        splitArguments ([','].intercalate raws) = parts) ∧
    ∀ text, [','].intercalate (rawArguments text) = text ∧
      (∀ raws, Separated raws ∧ [','].intercalate raws = text ↔ raws = rawArguments text) ∧
      (splitArguments text = [] ∨ splitArguments text = (rawArguments text).map trim) ∧
      (splitArguments text = [] ↔ ∀ c ∈ text, isBlank c = true) := by
  constructor
  · intro parts raws filled notBlank whole padded
    exact splitArguments_of_padded filled notBlank whole padded
  · intro text
    refine ⟨intercalate_rawArguments text, ?_, ?_, splitArguments_eq_nil_iff⟩
    · intro raws
      constructor
      · rintro ⟨separated, rfl⟩
        exact separated.rawArguments_eq.symm
      · rintro rfl
        exact ⟨separated_rawArguments text, intercalate_rawArguments text⟩
    · rw [splitArguments]
      split
      · exact .inl rfl
      · exact .inr rfl

-- Commas in brackets and in literals do not separate, and a part may be empty.
example : splitArguments " f(a, b), , \"x\\\",y\" ".toList =
    ["f(a, b)".toList, [], "\"x\\\",y\"".toList] := by decide +kernel

end QuestRecords.Source
