import QuestRecords.Proofs.Text.Split
import QuestRecords.Source.Literal

/-! The grammar of string literals. A literal is a chain of complete fragments with a joint between
each two. Reading accepts exactly the chains that the text behind them does not continue, and
fails exactly where no literal begins or a fragment of the chain is never closed. -/
namespace QuestRecords.Source.Literal

open Text

/-- What stands between the quotes of a fragment, and the characters that it means: plain ones,
and pairs of a backslash and any character. -/
inductive Body : Text → Text → Prop where
  | nil : Body [] []
  | plain (notQuote : c ≠ '"') (notEscape : c ≠ '\\') (rest : Body raw value) :
      Body (c :: raw) (c :: value)
  | escaped (rest : Body raw value) : Body ('\\' :: c :: raw) (c :: value)

/-- A complete fragment with both its quotes. -/
inductive Fragment : Text → Text → Prop where
  | quoted (body : Body raw value) : Fragment ('"' :: (raw ++ ['"'])) value

/-- A plus sign with gaps on both sides. -/
inductive Joint : Text → Prop where
  | plus (before : ∀ c ∈ left, isGap c) (behind : ∀ c ∈ right, isGap c) :
      Joint (left ++ '+' :: right)

/-- One complete fragment or more with joints between them, and the value of them all. -/
inductive Chain : Text → Text → Prop where
  | last (fragment : Fragment raw value) : Chain raw value
  | joined (fragment : Fragment raw value) (joint : Joint between) (rest : Chain others values) :
      Chain (raw ++ between ++ others) (value ++ values)

/-- A text that would make the chain before it longer. -/
def Continues (text : Text) : Prop := ∃ between rest, Joint between ∧ text = between ++ '"' :: rest

/-- A fragment that runs to the end of the text without a closing quote, perhaps up to a backslash
with nothing behind it. -/
inductive Unclosed : Text → Prop where
  | plain (body : Body raw value) : Unclosed ('"' :: raw)
  | escape (body : Body raw value) : Unclosed ('"' :: (raw ++ ['\\']))

/-- A chain of which some fragment is never closed. -/
inductive Broken : Text → Prop where
  | here (unclosed : Unclosed text) : Broken text
  | later (fragment : Fragment raw value) (joint : Joint between) (rest : Broken others) :
      Broken (raw ++ between ++ others)

/-- Reading goes through the inside of a fragment as the grammar does. -/
theorem fragment?_append (body : Body raw value) (rest : Text) :
    fragment? (raw ++ rest) =
      (fragment? rest).map fun (others, after) => (value ++ others, after) := by
  induction body with
  | nil => simp
  | @plain c raw value notQuote notEscape _ ih =>
    rw [List.cons_append, fragment?, ih, Option.map_map]
    · rfl
    · exact notQuote
    · intro _ _ escape
      exact absurd escape notEscape
  | escaped _ ih =>
    rw [List.cons_append, List.cons_append, fragment?, ih, Option.map_map]
    rfl

theorem body_of_fragment? {text value rest : Text} (read : fragment? text = some (value, rest)) :
    ∃ raw, Body raw value ∧ text = raw ++ '"' :: rest := by
  fun_induction fragment? text generalizing value rest with
  | case1 => cases read
  | case2 rest =>
    cases read
    exact ⟨[], .nil, rfl⟩
  | case3 c body ih =>
    obtain ⟨⟨inner, left⟩, found, same⟩ := Option.map_eq_some_iff.mp read
    cases same
    obtain ⟨raw, body, rfl⟩ := ih found
    exact ⟨'\\' :: c :: raw, .escaped body, rfl⟩
  | case4 c body notQuote noPair ih =>
    obtain ⟨⟨inner, left⟩, found, same⟩ := Option.map_eq_some_iff.mp read
    cases same
    obtain ⟨raw, body, rfl⟩ := ih found
    refine ⟨c :: raw, .plain notQuote ?_ body, rfl⟩
    intro escape
    cases raw with
    | nil => exact noPair _ _ escape rfl
    | cons next raw => exact noPair _ _ escape rfl

theorem fragment?_eq_some_iff {text value rest : Text} :
    fragment? text = some (value, rest) ↔ ∃ raw, Body raw value ∧ text = raw ++ '"' :: rest := by
  constructor
  · exact body_of_fragment?
  · rintro ⟨raw, body, rfl⟩
    simp [fragment?_append body, fragment?]

theorem unclosed_of_fragment? {text : Text} (unread : fragment? text = none) :
    Unclosed ('"' :: text) := by
  fun_induction fragment? text with
  | case1 => exact .plain .nil
  | case2 => cases unread
  | case3 c body ih =>
    cases ih (Option.map_eq_none_iff.mp unread) with
    | plain inner => exact .plain (.escaped inner)
    | escape inner => exact .escape (.escaped inner)
  | case4 c body notQuote noPair ih =>
    have inside := ih (Option.map_eq_none_iff.mp unread)
    by_cases escape : c = '\\'
    · cases body with
      | nil => exact escape ▸ .escape .nil
      | cons next body => exact absurd rfl (noPair next body escape)
    · cases inside with
      | plain inner => exact .plain (.plain notQuote escape inner)
      | escape inner => exact .escape (.plain notQuote escape inner)

theorem fragment?_eq_none_iff {text : Text} : fragment? text = none ↔ Unclosed ('"' :: text) := by
  constructor
  · exact unclosed_of_fragment?
  · intro unclosed
    cases unclosed with
    | plain body => simpa [fragment?] using fragment?_append body []
    | escape body => simpa [fragment?] using fragment?_append body ['\\']

theorem skipGaps_append {gaps rest : Text} (blank : ∀ c ∈ gaps, isGap c) :
    skipGaps (gaps ++ rest) = skipGaps rest :=
  List.dropWhile_append_of_pos blank

theorem exists_gaps (text : Text) : ∃ gaps, (∀ c ∈ gaps, isGap c) ∧ text = gaps ++ skipGaps text :=
  ⟨text.takeWhile isGap, List.all_eq_true.mp List.all_takeWhile,
    List.takeWhile_append_dropWhile.symm⟩

theorem continuation?_of_joint (joint : Joint between) (rest : Text) :
    continuation? (between ++ '"' :: rest) = some ('"' :: rest) := by
  obtain ⟨before, behind⟩ := joint
  rename_i left right
  have first : skipGaps ('+' :: (right ++ '"' :: rest)) = '+' :: (right ++ '"' :: rest) := rfl
  have second : skipGaps ('"' :: rest) = '"' :: rest := rfl
  rw [continuation?, List.append_assoc, skipGaps_append before, List.cons_append, first]
  simp only [skipGaps_append behind, second]

theorem joint_of_continuation? {text next : Text} (found : continuation? text = some next) :
    ∃ between rest, Joint between ∧ next = '"' :: rest ∧ text = between ++ next := by
  unfold continuation? at found
  split at found
  · rename_i rest plus
    split at found
    · rename_i body quote
      cases found
      obtain ⟨left, before, split⟩ := exists_gaps text
      obtain ⟨right, behind, splitRest⟩ := exists_gaps rest
      rw [plus] at split
      rw [quote] at splitRest
      exact ⟨left ++ '+' :: right, body, .plus before behind, rfl, by simp [split, splitRest]⟩
    · cases found
  · cases found

theorem continuation?_eq_none_iff {text : Text} : continuation? text = none ↔ ¬ Continues text := by
  constructor
  · rintro unread ⟨between, rest, joint, rfl⟩
    rw [continuation?_of_joint joint] at unread
    cases unread
  · intro ended
    cases found : continuation? text with
    | none => rfl
    | some next =>
      obtain ⟨between, rest, joint, rfl, same⟩ := joint_of_continuation? found
      exact absurd ⟨between, rest, joint, same⟩ ended

theorem Chain.quote_first (chain : Chain raw value) : ∃ rest, raw = '"' :: rest := by
  cases chain with
  | last fragment =>
    cases fragment
    exact ⟨_, rfl⟩
  | joined fragment _ _ =>
    cases fragment
    exact ⟨_, rfl⟩

theorem Broken.quote_first (broken : Broken text) : ∃ rest, text = '"' :: rest := by
  cases broken with
  | here unclosed => cases unclosed <;> exact ⟨_, rfl⟩
  | later fragment _ _ =>
    cases fragment
    exact ⟨_, rfl⟩

theorem chain?_of_ended (fragment : Fragment raw value) {rest : Text} (ended : ¬ Continues rest) :
    chain? (raw ++ rest) = some (value, rest) := by
  obtain ⟨body⟩ := fragment
  rename_i raw
  have read : fragment? (raw ++ '"' :: rest) = some (value, rest) :=
    fragment?_eq_some_iff.mpr ⟨raw, body, rfl⟩
  have noMore := continuation?_eq_none_iff.mpr ended
  rw [List.cons_append, List.append_assoc, List.singleton_append, chain?]
  split
  · rename_i unread
    rw [read] at unread
    cases unread
  · rename_i found
    rw [read] at found
    cases found
    split
    · rfl
    · rename_i more
      rw [noMore] at more
      cases more

theorem chain?_of_joint (fragment : Fragment raw value) (joint : Joint between) (rest : Text) :
    chain? (raw ++ between ++ '"' :: rest) =
      (chain? ('"' :: rest)).map fun (others, after) => (value ++ others, after) := by
  obtain ⟨body⟩ := fragment
  rename_i raw
  have read : fragment? (raw ++ '"' :: (between ++ '"' :: rest)) =
      some (value, between ++ '"' :: rest) := fragment?_eq_some_iff.mpr ⟨raw, body, rfl⟩
  have more := continuation?_of_joint joint rest
  rw [List.append_assoc, List.cons_append, List.append_assoc, List.singleton_append, chain?]
  split
  · rename_i unread
    rw [read] at unread
    cases unread
  · rename_i found
    rw [read] at found
    cases found
    split
    · rename_i noMore
      rw [more] at noMore
      cases noMore
    · rename_i next
      rw [more] at next
      cases next
      rfl

theorem chain_of_chain? {text value rest : Text} (read : chain? text = some (value, rest)) :
    ∃ raw, Chain raw value ∧ text = raw ++ rest ∧ ¬ Continues rest := by
  fun_induction chain? text generalizing value rest with
  | case1 => cases read
  | case2 body value left found noMore =>
    cases read
    obtain ⟨raw, inside, rfl⟩ := fragment?_eq_some_iff.mp found
    exact ⟨'"' :: (raw ++ ['"']), .last (.quoted inside), by simp,
      continuation?_eq_none_iff.mp noMore⟩
  | case3 body first left found next more ih =>
    obtain ⟨⟨others, after⟩, readOthers, same⟩ := Option.map_eq_some_iff.mp read
    cases same
    obtain ⟨raw, inside, rfl⟩ := fragment?_eq_some_iff.mp found
    obtain ⟨between, _, joint, _, rfl⟩ := joint_of_continuation? more
    obtain ⟨rawOthers, chain, rfl, ended⟩ := ih readOthers
    exact ⟨'"' :: (raw ++ ['"']) ++ between ++ rawOthers, .joined (.quoted inside) joint chain,
      by simp, ended⟩
  | case4 => cases read

/-- Reading accepts exactly the chains that the text behind them does not continue. -/
theorem chain?_eq_some_iff {text value rest : Text} : chain? text = some (value, rest) ↔
    ∃ raw, Chain raw value ∧ text = raw ++ rest ∧ ¬ Continues rest := by
  constructor
  · exact chain_of_chain?
  · rintro ⟨raw, chain, rfl, ended⟩
    induction chain with
    | last fragment => exact chain?_of_ended fragment ended
    | joined fragment joint chain ih =>
      obtain ⟨others, rfl⟩ := chain.quote_first
      rw [List.append_assoc, List.cons_append, chain?_of_joint fragment joint, ← List.cons_append,
        ih, Option.map_some]

theorem broken_of_chain? {body : Text} (unread : chain? ('"' :: body) = none) :
    Broken ('"' :: body) := by
  generalize whole : '"' :: body = text at unread
  fun_induction chain? text generalizing body with
  | case1 inside unreadBody => exact .here (unclosed_of_fragment? unreadBody)
  | case2 => cases unread
  | case3 inside value left found next more ih =>
    obtain ⟨raw, fragment, rfl⟩ := fragment?_eq_some_iff.mp found
    obtain ⟨between, rest, joint, rfl, rfl⟩ := joint_of_continuation? more
    have broken := ih rfl (Option.map_eq_none_iff.mp unread)
    simpa using Broken.later (.quoted fragment) joint broken
  | case4 text other => exact absurd whole.symm (other body)

/-- Reading fails exactly where no literal begins or a fragment of the chain is never closed. -/
theorem chain?_eq_none_iff {text : Text} :
    chain? text = none ↔ text.head? ≠ some '"' ∨ Broken text := by
  constructor
  · intro unread
    by_cases opens : text.head? = some '"'
    · obtain ⟨body, rfl⟩ := List.head?_eq_some_iff.mp opens
      exact .inr (broken_of_chain? unread)
    · exact .inl opens
  · rintro (other | broken)
    · rw [chain?]
      intro body opens
      simp [opens] at other
    · induction broken with
      | here unclosed =>
        obtain ⟨body, rfl⟩ := (Broken.here unclosed).quote_first
        have unread := fragment?_eq_none_iff.mpr unclosed
        rw [chain?]
        split
        · rfl
        · rename_i found
          rw [unread] at found
          cases found
      | later fragment joint broken ih =>
        obtain ⟨body, rfl⟩ := broken.quote_first
        rw [chain?_of_joint fragment joint, ih, Option.map_none]

/-- A further text of a written chain, with the gaps around the plus sign before it. -/
structure Link where
  left : Text
  right : Text
  text : Text
  before : ∀ c ∈ left, isGap c
  behind : ∀ c ∈ right, isGap c

def escaped (c : Char) : Text := if c = '"' ∨ c = '\\' then ['\\', c] else [c]

/-- A text as a fragment: quotes and backslashes in it get a backslash. -/
def quote (text : Text) : Text := '"' :: (text.flatMap escaped ++ ['"'])

def written (first : Text) : List Link → Text
  | [] => quote first
  | link :: links => quote first ++ (link.left ++ '+' :: link.right) ++ written link.text links

theorem body_escaped (text : Text) : Body (text.flatMap escaped) text := by
  induction text with
  | nil => exact .nil
  | cons c text ih =>
    rw [List.flatMap_cons, escaped]
    split
    · exact .escaped ih
    · rename_i ordinary
      obtain ⟨notQuote, notEscape⟩ := not_or.mp ordinary
      exact .plain notQuote notEscape ih

theorem chain_written (first : Text) (links : List Link) :
    Chain (written first links) (first ++ links.flatMap Link.text) := by
  induction links generalizing first with
  | nil => simpa [written, quote] using Chain.last (.quoted (body_escaped first))
  | cons link links ih =>
    exact .joined (.quoted (body_escaped first)) (.plus link.before link.behind) (ih link.text)

theorem read?_eq_some_iff {source value : Text} {offset stop : Nat} :
    read? source offset = some ⟨value, stop⟩ ↔
      ∃ before raw rest, source = before ++ raw ++ rest ∧ width before = offset ∧
        width (before ++ raw) = stop ∧ Chain raw value ∧ ¬ Continues rest := by
  constructor
  · intro read
    obtain ⟨⟨before, ahead⟩, split, read⟩ := Option.bind_eq_some_iff.mp read
    obtain ⟨⟨value, rest⟩, found, same⟩ := Option.bind_eq_some_iff.mp read
    cases same
    obtain ⟨rfl, place⟩ := splitAt?_eq_some_iff.mp split
    obtain ⟨raw, chain, rfl, ended⟩ := chain?_eq_some_iff.mp found
    exact ⟨before, raw, rest, by simp, place, by simp [upTo_append], chain, ended⟩
  · rintro ⟨before, raw, rest, rfl, rfl, rfl, chain, ended⟩
    have found : chain? (raw ++ rest) = some (value, rest) :=
      chain?_eq_some_iff.mpr ⟨raw, chain, rfl, ended⟩
    simp [read?, List.append_assoc, found, upTo_append]

theorem read?_eq_none_iff {source : Text} {offset : Nat} :
    read? source offset = none ↔
      (∀ before rest, source = before ++ '"' :: rest → width before ≠ offset) ∨
        ∃ before rest, source = before ++ rest ∧ width before = offset ∧ Broken rest := by
  cases split : source.splitAt? offset with
  | none =>
    simp only [read?, split, Option.bind_eq_bind, Option.bind_none, true_iff]
    left
    intro before rest same place
    rw [same, ← place, splitAt?_width] at split
    cases split
  | some parts =>
    obtain ⟨before, ahead⟩ := parts
    obtain ⟨rfl, place⟩ := splitAt?_eq_some_iff.mp split
    have unread : read? (before ++ ahead) offset = none ↔ chain? ahead = none := by
      simp only [read?, split, Option.bind_eq_bind, Option.bind_some]
      cases chain? ahead <;> simp
    rw [unread, chain?_eq_none_iff]
    constructor
    · rintro (other | broken)
      · left
        intro left rest same wide
        obtain ⟨rfl, rfl⟩ := append_inj_of_width same (place.trans wide.symm)
        exact other rfl
      · exact .inr ⟨before, ahead, rfl, place, broken⟩
    · rintro (noQuote | ⟨left, rest, same, wide, broken⟩)
      · left
        intro opens
        obtain ⟨rest, rfl⟩ := List.head?_eq_some_iff.mp opens
        exact noQuote before rest rfl place
      · obtain ⟨rfl, rfl⟩ := append_inj_of_width same (place.trans wide.symm)
        exact .inr broken

/-- Reading at an offset accepts exactly the chains of complete fragments that start there and
that the text behind them does not continue. It fails exactly where no quote stands or a fragment of
the chain is never closed. Texts written as a chain are read back joined. -/
theorem read?_reads_maximal_chain :
    (∀ (source value : Text) (offset stop : Nat), read? source offset = some ⟨value, stop⟩ ↔
      ∃ before raw rest, source = before ++ raw ++ rest ∧ width before = offset ∧
        width (before ++ raw) = stop ∧ Chain raw value ∧ ¬ Continues rest) ∧
    (∀ (source : Text) (offset : Nat), read? source offset = none ↔
      (∀ before rest, source = before ++ '"' :: rest → width before ≠ offset) ∨
        ∃ before rest, source = before ++ rest ∧ width before = offset ∧ Broken rest) ∧
    (∀ (before first : Text) (links : List Link) (rest : Text), ¬ Continues rest →
      read? (before ++ written first links ++ rest) (width before) =
        some ⟨first ++ links.flatMap Link.text, width (before ++ written first links)⟩) := by
  refine ⟨?_, ?_, ?_⟩
  · intro source value offset stop
    exact read?_eq_some_iff
  · intro source offset
    exact read?_eq_none_iff
  · intro before first links rest ended
    exact read?_eq_some_iff.mpr
      ⟨before, written first links, rest, rfl, rfl, rfl, chain_written first links, ended⟩

/-- Two texts with a quote, a backslash and a wide character, behind other text. -/
theorem read?_reads_two_texts :
    ¬ Continues ", 1)".toList ∧
      read? "x(\"a\\\"\\\\\" \t+\n\"é\", 1)".toList 2 = some ⟨['a', '"', '\\', 'é'], 17⟩ := by
  have ended : ¬ Continues ", 1)".toList := continuation?_eq_none_iff.mp rfl
  refine ⟨ended, ?_⟩
  exact read?_reads_maximal_chain.2.2 ['x', '('] ['a', '"', '\\']
    [⟨[' ', '\t'], ['\n'], ['é'], by simp [isGap], by simp [isGap]⟩] ", 1)".toList ended

end QuestRecords.Source.Literal
