import QuestRecords.Proofs.Source.LiteralGrammar
import QuestRecords.Proofs.Source.Pieces

namespace QuestRecords.Source.Literal

open Text Piece

theorem escaped_of_plain {c : Char} (plain : ¬ (c = '"' ∨ c = '\\')) : escaped c = [c] :=
  if_neg plain

theorem mem_quote {text : Text} {c : Char} (member : c ∈ quote text) :
    c = '"' ∨ c = '\\' ∨ c ∈ text := by
  rw [quote, List.mem_cons, List.mem_append, List.mem_singleton] at member
  rcases member with first | inside | last
  · exact .inl first
  · obtain ⟨d, among, shown⟩ := List.mem_flatMap.mp inside
    rw [escaped] at shown
    split at shown
    · rcases List.mem_cons.mp shown with escape | same
      · exact .inr (.inl escape)
      · exact .inr (.inr (List.mem_singleton.mp same ▸ among))
    · exact .inr (.inr (List.mem_singleton.mp shown ▸ among))
  · exact .inl last

/-- A word without quotes and backslashes. -/
def Unescaped (word : Text) : Prop := ∀ c ∈ word, ¬ (c = '"' ∨ c = '\\')

theorem Unescaped.of_not_mem {word : Text} (noQuote : '"' ∉ word) (noEscape : '\\' ∉ word) :
    Unescaped word := by
  rintro c member (rfl | rfl)
  · exact noQuote member
  · exact noEscape member

theorem prefix_of_prefix_escaped {word text : Text} (unescaped : Unescaped word)
    (begins : word <+: text.flatMap escaped) : word <+: text := by
  induction text generalizing word with
  | nil => exact begins
  | cons c text ih =>
    cases word with
    | nil => exact List.nil_prefix
    | cons d word =>
      obtain ⟨first, others⟩ := List.forall_mem_cons.mp unescaped
      rw [List.flatMap_cons] at begins
      by_cases special : c = '"' ∨ c = '\\'
      · rw [escaped, if_pos special] at begins
        exact absurd (.inr (List.cons_prefix_cons.mp begins).1) first
      · rw [escaped_of_plain special] at begins
        obtain ⟨rfl, later⟩ := List.cons_prefix_cons.mp begins
        exact List.cons_prefix_cons.mpr ⟨rfl, ih others later⟩

theorem infix_of_infix_escaped {c : Char} {word text : Text} (unescaped : Unescaped (c :: word))
    (inside : c :: word <:+: text.flatMap escaped) : c :: word <:+: text := by
  have first : ¬ (c = '"' ∨ c = '\\') := unescaped c List.mem_cons_self
  induction text with
  | nil => exact inside
  | cons d text ih =>
    rw [List.flatMap_cons] at inside
    by_cases special : d = '"' ∨ d = '\\'
    · rw [escaped, if_pos special] at inside
      rcases List.infix_cons_iff.mp inside with begins | inside
      · exact absurd (.inr (List.cons_prefix_cons.mp begins).1) first
      rcases List.infix_cons_iff.mp inside with begins | inside
      · exact absurd ((List.cons_prefix_cons.mp begins).1 ▸ special) first
      · exact (ih inside).trans (List.suffix_cons d text).isInfix
    · rw [escaped_of_plain special] at inside
      rcases List.infix_cons_iff.mp inside with begins | inside
      · have whole : c :: word <+: (d :: text).flatMap escaped := by
          rwa [List.flatMap_cons, escaped_of_plain special]
        exact (prefix_of_prefix_escaped unescaped whole).isInfix
      · exact (ih inside).trans (List.suffix_cons d text).isInfix

theorem infix_of_infix_quote {c : Char} {word text : Text} (unescaped : Unescaped (c :: word))
    (inside : c :: word <:+: quote text) : c :: word <:+: text := by
  have notQuote : '"' ∉ c :: word := fun member => unescaped _ member (.inl rfl)
  apply infix_of_infix_escaped unescaped
  rw [quote] at inside
  rcases List.infix_cons_iff.mp inside with begins | inside
  · exact absurd (List.cons_prefix_cons.mp begins).1 fun same => notQuote (by simp [same])
  rcases List.infix_concat_iff.mp inside with ends | inside
  · rcases List.suffix_concat_iff.mp ends with none | ⟨front, same, -⟩
    · cases none
    · exact absurd (by simp [same]) notQuote
  · exact inside

theorem quotedTail?_escaped (text more : Text) :
    quotedTail? '"' (text.flatMap escaped ++ '"' :: more) =
      some (text.flatMap escaped ++ ['"'], more) := by
  induction text with
  | nil => rfl
  | cons c text ih =>
    rw [List.flatMap_cons]
    by_cases special : c = '"' ∨ c = '\\'
    · rw [escaped, if_pos special]
      simp only [List.cons_append, List.nil_append]
      rw [quotedTail?, ih, Option.map_some]
    · rw [escaped_of_plain special]
      obtain ⟨notQuote, notEscape⟩ := not_or.mp special
      simp only [List.cons_append, List.nil_append]
      rw [quotedTail?, if_neg notQuote, ih, Option.map_some]
      rintro next rest rfl -
      exact notEscape rfl

theorem proper_quote (text : Text) : Proper (.quoted (quote text)) :=
  proper_quoted rfl (quotedTail?_escaped text [])

theorem chain?_quote (text : Text) {rest : Text} (ends : ¬ Continues rest) :
    chain? (quote text ++ rest) = some (text, rest) :=
  chain?_eq_some_iff.mpr ⟨quote text, .last (.quoted (body_escaped text)), rfl, ends⟩

end QuestRecords.Source.Literal
