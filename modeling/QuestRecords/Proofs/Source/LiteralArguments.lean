import QuestRecords.Proofs.Offsets.Arguments
import QuestRecords.Proofs.Offsets.Calls
import QuestRecords.Proofs.Source.LiteralGrammar
import QuestRecords.Proofs.Source.Pieces
import QuestRecords.Proofs.Text.Stretches

/-! Literals as arguments of calls. The arguments of a call that was found are read in complete
pieces, so a literal that an argument begins with is closed inside the argument. It reads the same
whether the argument is taken out of the text or read where it stands, since neither a comma nor a
parenthesis goes on with a literal. -/
namespace QuestRecords.Source

open Text

/-- Texts with a comma between each two, by the offset of each. -/
def placedFrom (offset : Nat) : List Text → List (Nat × Text)
  | [] => []
  | raw :: others => (offset, raw) :: placedFrom (offset + width raw + 1) others

/-- An argument without the blanks around it, by its offset. -/
def placedTrim (placed : Nat × Text) : Nat × Text :=
  (placed.1 + width (placed.2.takeWhile isBlank), trim placed.2)

/-- The arguments of a call by their byte offsets in the text that the call was found in. -/
def Call.placedArguments (call : Call) : List (Nat × Text) :=
  if call.arguments = [] then []
  else (placedFrom call.argsStart (rawArguments call.args)).map placedTrim

theorem map_snd_placedFrom (offset : Nat) (raws : List Text) :
    (placedFrom offset raws).map (·.2) = raws := by
  induction raws generalizing offset with
  | nil => rfl
  | cons raw raws ih => rw [placedFrom, List.map_cons, ih]

theorem Call.map_snd_placedArguments (call : Call) :
    call.placedArguments.map (·.2) = call.arguments := by
  rw [placedArguments]
  by_cases blank : call.arguments = []
  · rw [if_pos blank, blank, List.map_nil]
  · have trims : (·.2) ∘ placedTrim = trim ∘ (·.2) := rfl
    rw [if_neg blank, List.map_map, trims, ← List.map_map, map_snd_placedFrom]
    rw [arguments, splitArguments] at blank ⊢
    split
    · rename_i sole
      rw [if_pos sole] at blank
      exact absurd rfl blank
    · rfl

namespace Piece

def groups (depth : Int) (pieces : List Piece) : List (List Piece) :=
  (cutAtCommas depth pieces).1 :: (cutAtCommas depth pieces).2

theorem groups_comma (pieces : List Piece) :
    groups 0 (plain ',' :: pieces) = [] :: groups 0 pieces := by
  rw [groups, cutAtCommas, if_pos ⟨rfl, rfl⟩]
  rfl

theorem groups_other {piece : Piece} {depth : Int} (notCut : ¬ (piece = plain ',' ∧ depth = 0))
    (pieces : List Piece) :
    groups depth (piece :: pieces) =
      (piece :: (cutAtCommas (depth + piece.nesting) pieces).1) ::
        (cutAtCommas (depth + piece.nesting) pieces).2 := by
  rw [groups, cutAtCommas, if_neg notCut]

/-- Every group stands where its offset says, is made of complete pieces, and ends at a comma or at
the end of the text. -/
theorem placed_groups {depth : Int} {pieces : List Piece}
    (proper : ∀ piece ∈ pieces, Proper piece) {start offset : Nat} {raw : Text}
    (placed : (offset, raw) ∈ placedFrom start ((groups depth pieces).map join)) :
    ∃ before after, join pieces = before ++ raw ++ after ∧ offset = start + width before ∧
      Complete raw ∧ (after = [] ∨ ∃ more, after = ',' :: more) := by
  induction pieces generalizing depth start offset raw with
  | nil =>
    obtain ⟨rfl, rfl⟩ := Prod.mk.inj (List.mem_singleton.mp placed)
    exact ⟨[], [], rfl, rfl, complete_nil, .inl rfl⟩
  | cons piece pieces ih =>
    obtain ⟨first, others⟩ := List.forall_mem_cons.mp proper
    by_cases cut : piece = plain ',' ∧ depth = 0
    · obtain ⟨rfl, rfl⟩ := cut
      rw [groups_comma, List.map_cons, placedFrom] at placed
      rcases List.mem_cons.mp placed with here | later
      · obtain ⟨rfl, rfl⟩ := Prod.mk.inj here
        exact ⟨[], ',' :: join pieces, rfl, rfl, complete_nil, .inr ⟨_, rfl⟩⟩
      · obtain ⟨before, after, whole, rfl, complete, ends⟩ := ih others later
        refine ⟨',' :: before, after, ?_, ?_, complete, ends⟩
        · rw [join_cons, whole]
          rfl
        · have comma : ','.utf8Size = 1 := rfl
          rw [width_cons, comma, join_nil, width_nil]
          omega
    · have place := @ih (depth + piece.nesting) others (start + width piece.text)
      rw [groups, List.map_cons, placedFrom] at place
      rw [groups_other cut, List.map_cons, placedFrom] at placed
      rcases List.mem_cons.mp placed with here | later
      · obtain ⟨rfl, rfl⟩ := Prod.mk.inj here
        obtain ⟨before, after, whole, shift, complete, ends⟩ := place List.mem_cons_self
        have empty : before = [] := by
          cases before with
          | nil => rfl
          | cons c before =>
            have := c.utf8Size_pos
            rw [width_cons] at shift
            omega
        refine ⟨[], after, ?_, rfl, (complete_piece_append first).mpr complete, ends⟩
        rw [join_cons, whole, empty]
        simp
      · have shift : start + width piece.text +
            width (join (cutAtCommas (depth + piece.nesting) pieces).1) + 1 =
            start + width (join (piece :: (cutAtCommas (depth + piece.nesting) pieces).1)) + 1 := by
          rw [join_cons, width_append, Nat.add_assoc start]
        rw [← shift] at later
        obtain ⟨before, after, whole, rfl, complete, ends⟩ :=
          place (List.mem_cons_of_mem _ later)
        refine ⟨piece.text ++ before, after, ?_, ?_, complete, ends⟩
        · rw [join_cons, whole]
          simp
        · rw [width_append, Nat.add_assoc]

end Piece

theorem withTail_nil (group : Text) (groups : List Text) :
    Offsets.withTail [] group groups = group :: groups := by
  induction groups generalizing group with
  | nil => rw [Offsets.withTail, List.append_nil]
  | cons next groups ih => rw [Offsets.withTail, ih]

/-- The arguments of a complete text are its groups. -/
theorem rawArguments_of_complete {text : Text} (complete : Piece.Complete text) :
    rawArguments text = (Piece.groups 0 (Piece.split text).1).map Piece.join := by
  rw [Offsets.rawArguments_eq, Offsets.groupsFrom_eq, complete, withTail_nil, List.nil_append]
  rfl

theorem trim_split (text : Text) :
    ∃ tail, (∀ c ∈ tail, isBlank c = true) ∧
      text = text.takeWhile isBlank ++ trim text ++ tail := by
  refine ⟨((trimStart text).reverse.takeWhile isBlank).reverse, ?_, ?_⟩
  · intro c member
    exact List.all_eq_true.mp List.all_takeWhile c (List.mem_reverse.mp member)
  · have ends : trim text ++ ((trimStart text).reverse.takeWhile isBlank).reverse =
        trimStart text := by
      rw [trim, trimEnd, ← List.reverse_append, List.takeWhile_append_dropWhile,
        List.reverse_reverse]
    rw [List.append_assoc, ends]
    exact List.takeWhile_append_dropWhile.symm

theorem Piece.complete_append {front text : Text} (noQuote : ∀ c ∈ front, isQuote c = false) :
    Complete (front ++ text) ↔ Complete text := by
  induction front with
  | nil => rfl
  | cons c front ih =>
    obtain ⟨first, others⟩ := List.forall_mem_cons.mp noQuote
    rw [List.cons_append, complete_cons_iff first, ih others]

theorem Piece.isQuote_of_isBlank {c : Char} (blank : isBlank c = true) : isQuote c = false := by
  apply Bool.eq_false_iff.mpr
  intro isQuote
  rcases Offsets.isQuote_iff.mp isQuote with rfl | rfl
  · exact absurd blank (by decide)
  · exact absurd blank (by decide)

namespace Literal

open Piece

/-- What stands between two double quotes is the inside of a fragment. -/
theorem fragment?_of_quotedTail? {text raw after : Text}
    (read : quotedTail? '"' text = some (raw, after)) :
    ∃ value, fragment? text = some (value, after) := by
  fun_induction quotedTail? '"' text generalizing raw after with
  | case1 => cases read
  | case2 c rest ih =>
    obtain ⟨⟨inner, left⟩, found, same⟩ := Option.map_eq_some_iff.mp read
    cases same
    obtain ⟨value, inside⟩ := ih found
    exact ⟨c :: value, by rw [fragment?, inside, Option.map_some]⟩
  | case3 rest =>
    cases read
    exact ⟨[], by rw [fragment?]⟩
  | case4 c rest noPair other ih =>
    obtain ⟨⟨inner, left⟩, found, same⟩ := Option.map_eq_some_iff.mp read
    cases same
    obtain ⟨value, inside⟩ := ih found
    refine ⟨c :: value, ?_⟩
    rw [fragment?, inside, Option.map_some]
    · exact other
    · intro next tail escape whole
      exact noPair next tail escape whole

theorem Joint.noQuote (joint : Joint between) : ∀ c ∈ between, isQuote c = false := by
  obtain ⟨before, behind⟩ := joint
  have gaps : ∀ {c : Char}, isGap c = true → isQuote c = false := fun gap =>
    isQuote_of_isBlank (isBlank_of_isGap _ gap)
  intro c member
  rcases List.mem_append.mp member with left | right
  · exact gaps (before c left)
  · rcases List.mem_cons.mp right with rfl | right
    · decide
    · exact gaps (behind c right)

/-- A complete text that begins with a double quote begins with a literal. -/
theorem exists_chain?_of_complete {text : Text} (complete : Complete text)
    (opens : text.head? = some '"') : ∃ value rest, chain? text = some (value, rest) := by
  have closed : ∀ {body}, Complete ('"' :: body) →
      ∃ value after, fragment? body = some (value, after) ∧ Complete after := by
    intro body complete
    obtain ⟨raw, after, read, left⟩ := complete.closed rfl
    obtain ⟨value, inside⟩ := fragment?_of_quotedTail? read
    exact ⟨value, after, inside, left⟩
  fun_induction chain? text with
  | case1 body unread =>
    obtain ⟨value, after, inside, -⟩ := closed complete
    rw [unread] at inside
    cases inside
  | case2 body value rest found ended => exact ⟨value, rest, rfl⟩
  | case3 body first rest found next more ih =>
    obtain ⟨_, _, inside, left⟩ := closed complete
    cases found.symm.trans inside
    obtain ⟨between, others, joint, rfl, rfl⟩ := joint_of_continuation? more
    obtain ⟨value, after, later⟩ := ih ((complete_append joint.noQuote).mp left) rfl
    exact ⟨first ++ value, after, by rw [later, Option.map_some]⟩
  | case4 text other =>
    obtain ⟨body, rfl⟩ := List.head?_eq_some_iff.mp opens
    exact absurd rfl (other body)

theorem Chain.quote_last (chain : Chain raw value) : ∃ front, raw = front ++ ['"'] := by
  induction chain with
  | last fragment =>
    obtain ⟨body⟩ := fragment
    exact ⟨_, (List.cons_append ..).symm⟩
  | joined _ _ _ ih =>
    obtain ⟨front, rfl⟩ := ih
    exact ⟨_, (List.append_assoc ..).symm⟩

theorem Continues.append {text : Text} (continues : Continues text) (more : Text) :
    Continues (text ++ more) := by
  obtain ⟨between, rest, joint, rfl⟩ := continues
  exact ⟨between, rest ++ more, joint, by simp⟩

/-- A character that stands in no joint ends a chain before it. -/
theorem Continues.of_append_cons {text more : Text} {d : Char} (noGap : isGap d = false)
    (noPlus : d ≠ '+') (noQuote : d ≠ '"') (continues : Continues (text ++ d :: more)) :
    Continues text := by
  obtain ⟨between, rest, joint, same⟩ := continues
  have absent : d ∉ between ++ ['"'] := by
    obtain ⟨before, behind⟩ := joint
    intro member
    simp only [List.mem_append, List.mem_cons, List.not_mem_nil] at member
    rcases member with ((left | rfl | right) | rfl | none)
    · simp [before d left] at noGap
    · exact noPlus rfl
    · simp [behind d right] at noGap
    · exact noQuote rfl
    · exact none
  have begins : between ++ ['"'] <+: text ++ d :: more := ⟨rest, by simp [same]⟩
  obtain ⟨left, rfl⟩ := prefix_of_prefix_append_cons begins absent
  exact ⟨between, left, joint, by simp⟩

/-- A literal at the beginning of a complete text ends before the blanks at the end of it, and what
follows a comma or a parenthesis behind those blanks does not go on with it. -/
theorem chain_inside {argument tail : Text} {d : Char} (complete : Complete (argument ++ tail))
    (blank : ∀ c ∈ tail, isBlank c = true) (opens : argument.head? = some '"')
    (ends : d = ',' ∨ d = ')') (more : Text) :
    ∃ raw value left, argument = raw ++ left ∧ Chain raw value ∧ ¬ Continues left ∧
      ¬ Continues (left ++ (tail ++ d :: more)) := by
  obtain ⟨value, rest, read⟩ := exists_chain?_of_complete complete (by simp [opens])
  obtain ⟨raw, chain, whole, ended⟩ := chain?_eq_some_iff.mp read
  have inside : ∃ left, argument = raw ++ left ∧ rest = left ++ tail := by
    rcases List.append_eq_append_iff.mp whole with ⟨beyond, same, rfl⟩ | ⟨left, same, rfl⟩
    · obtain ⟨front, last⟩ := chain.quote_last
      rcases List.eq_nil_or_concat beyond with rfl | ⟨beyond, c, rfl⟩
      · exact ⟨[], by simpa using same.symm, rfl⟩
      · have quote : c = '"' := by
          have ends := congrArg List.getLast? (last.symm.trans same)
          simpa using ends.symm
        exact absurd (blank c (by simp)) (by rw [quote]; decide)
    · exact ⟨left, same, rfl⟩
  obtain ⟨left, same, rfl⟩ := inside
  refine ⟨raw, value, left, same, chain, fun continues => ended (continues.append tail), ?_⟩
  rw [← List.append_assoc]
  intro continues
  apply ended
  rcases ends with rfl | rfl
  · exact continues.of_append_cons (by decide) (by decide) (by decide)
  · exact continues.of_append_cons (by decide) (by decide) (by decide)

end Literal

theorem complete_of_parenthesised? {text args rest : Text}
    (read : parenthesised? text = some (args, rest)) : Piece.Complete args := by
  cases text with
  | nil => cases read
  | cons c tail =>
    by_cases opens : c = '('
    · subst opens
      obtain ⟨⟨inside, after⟩, closed, same⟩ := Option.map_eq_some_iff.mp read
      cases same
      exact Piece.complete_join (Piece.proper_of_mem_close? closed)
    · rw [parenthesised?] at read
      · cases read
      · intro rest same
        exact absurd (List.cons.inj same).1 opens

/-- The arguments of a call that is read from its parenthesis on stand where the call says, up to a
closing parenthesis, and no literal in them is left open. -/
theorem exists_append_of_ofParen? {site : Site} {header paren : Text}
    (split : site.ahead = header ++ paren) {call : Call}
    (read : Call.ofParen? site paren = some call) :
    ∃ before after, site.text = before ++ call.args ++ ')' :: after ∧
      width before = call.argsStart ∧ Piece.Complete call.args := by
  obtain ⟨⟨args, rest⟩, closed, same⟩ := Option.map_eq_some_iff.mp read
  cases same
  refine ⟨site.behind.reverse ++ header ++ ['('], rest, ?_, ?_, complete_of_parenthesised? closed⟩
  · rw [Site.text, split, Offsets.parenthesised?_eq_append closed]
    simp
  · simp [Site.offset, split, upTo_append, Nat.add_assoc]

theorem exists_append_of_mem_constructorCalls {text typeName : Text} {call : Call}
    (member : call ∈ constructorCalls text typeName) :
    ∃ before after, text = before ++ call.args ++ ')' :: after ∧ width before = call.argsStart ∧
      Piece.Complete call.args := by
  obtain ⟨site, place, read⟩ := List.mem_filterMap.mp member
  obtain ⟨paren, header, called⟩ := Option.bind_eq_some_iff.mp read
  obtain ⟨header, split⟩ := Offsets.exists_append_of_header? header
  rw [← Offsets.text_of_mem_sites place]
  exact exists_append_of_ofParen? split called

/-- An argument of a call that was found stands at its offset; behind it follow blanks and a comma or
a parenthesis. -/
theorem exists_append_of_mem_placedArguments {text typeName : Text} {call : Call}
    (member : call ∈ constructorCalls text typeName) {offset : Nat} {argument : Text}
    (placed : (offset, argument) ∈ call.placedArguments) :
    ∃ before tail d more, text = before ++ argument ++ (tail ++ d :: more) ∧
      width before = offset ∧ (∀ c ∈ tail, isBlank c = true) ∧
      Piece.Complete (argument ++ tail) ∧ (d = ',' ∨ d = ')') := by
  obtain ⟨before, after, rfl, start, complete⟩ := exists_append_of_mem_constructorCalls member
  rw [Call.placedArguments] at placed
  split at placed
  · cases placed
  · obtain ⟨⟨place, raw⟩, among, same⟩ := List.mem_map.mp placed
    obtain ⟨rfl, rfl⟩ := Prod.mk.inj same
    rw [rawArguments_of_complete complete] at among
    obtain ⟨front, back, whole, rfl, closed, ends⟩ :=
      Piece.placed_groups (Piece.proper_of_mem_split call.args) among
    rw [complete.join_eq] at whole
    obtain ⟨tail, blank, trimmed⟩ := trim_split raw
    have gaps : ∀ c ∈ raw.takeWhile isBlank, Piece.isQuote c = false := fun c inside =>
      Piece.isQuote_of_isBlank (List.all_eq_true.mp List.all_takeWhile c inside)
    rw [trimmed, List.append_assoc, Piece.complete_append gaps] at closed
    obtain ⟨d, more, follows, ends⟩ :
        ∃ d more, back ++ ')' :: after = d :: more ∧ (d = ',' ∨ d = ')') := by
      rcases ends with rfl | ⟨more, rfl⟩
      · exact ⟨')', after, rfl, .inr rfl⟩
      · exact ⟨',', more ++ ')' :: after, rfl, .inl rfl⟩
    refine ⟨before ++ front ++ raw.takeWhile isBlank, tail, d, more, ?_, ?_, blank, closed, ends⟩
    · have apart : before ++ (front ++ raw ++ back) ++ ')' :: after =
          before ++ front ++ raw ++ (back ++ ')' :: after) := by simp
      rw [whole, apart, follows]
      conv =>
        lhs
        rw [trimmed]
      simp
    · rw [width_append, width_append, start]

/-- The arguments of a call that was found, by their offsets, stand where they say. An argument that
begins with a double quote is read as a literal at its offset, the literal ends inside the argument,
and its value is what the argument gives by itself. No literal in the arguments is left open. -/
theorem constructorCalls_literals_agree {text typeName : Text} {call : Call}
    (found : call ∈ constructorCalls text typeName) :
    call.placedArguments.map (·.2) = call.arguments ∧ (Piece.split call.args).2 = [] ∧
      ∀ offset argument, (offset, argument) ∈ call.placedArguments →
        text.slice? offset (offset + width argument) = some argument ∧
        (argument.head? = some '"' →
          ∃ reading, Literal.read? text offset = some reading ∧ offset < reading.stop ∧
            reading.stop ≤ offset + width argument ∧
            Literal.ofArgument? argument = some reading.value) := by
  obtain ⟨_, _, _, _, closed⟩ := exists_append_of_mem_constructorCalls found
  refine ⟨call.map_snd_placedArguments, closed, ?_⟩
  intro offset argument placed
  obtain ⟨before, tail, d, more, rfl, rfl, blank, complete, ends⟩ :=
    exists_append_of_mem_placedArguments found placed
  rw [← width_append]
  refine ⟨slice?_append before argument (tail ++ d :: more), ?_⟩
  intro opens
  obtain ⟨raw, value, left, rfl, chain, alone, inPlace⟩ :=
    Literal.chain_inside complete blank opens ends more
  have inside : Literal.read? (before ++ (raw ++ left) ++ (tail ++ d :: more)) (width before) =
      some ⟨value, width (before ++ raw)⟩ :=
    Literal.read?_eq_some_iff.mpr
      ⟨before, raw, left ++ (tail ++ d :: more), by simp, rfl, rfl, chain, inPlace⟩
  have taken : Literal.chain? (trimStart (raw ++ left)) = some (value, left) := by
    obtain ⟨body, rfl⟩ := chain.quote_first
    exact Literal.chain?_eq_some_iff.mpr ⟨'"' :: body, chain, rfl, alone⟩
  have begins : width before < width (before ++ raw) := by
    obtain ⟨body, rfl⟩ := chain.quote_first
    have quote : '"'.utf8Size = 1 := rfl
    rw [width_append, width_cons]
    omega
  have fits : width (before ++ raw) ≤ width (before ++ (raw ++ left)) := by
    rw [← List.append_assoc, width_append (before ++ raw)]
    omega
  refine ⟨_, inside, begins, fits, ?_⟩
  rw [Literal.ofArgument?, taken, Option.map_some]

/-- A call behind a wide character, with a chain of two fragments that holds an escaped quote, a
parenthesis and blanks. -/
def chainedCall : Text := "é = new K(1, \"é\\\"a)\" + \"b\" , v)".toList

theorem constructorCalls_literals_agree_chained :
    ∃ call ∈ constructorCalls chainedCall ['K'],
      call.arguments = [['1'], "\"é\\\"a)\" + \"b\"".toList, ['v']] ∧
        ∃ reading, Literal.read? chainedCall 14 = some reading ∧ reading.stop ≤ 28 ∧
          Literal.ofArgument? "\"é\\\"a)\" + \"b\"".toList = some reading.value := by
  obtain ⟨call, calls⟩ : ∃ call, constructorCalls chainedCall ['K'] = [call] :=
    List.length_eq_one_iff.mp (by decide +kernel)
  have found : call ∈ constructorCalls chainedCall ['K'] := by simp [calls]
  have placed : call.placedArguments =
      [(11, ['1']), (14, "\"é\\\"a)\" + \"b\"".toList), (31, ['v'])] := by
    have places : (constructorCalls chainedCall ['K']).map Call.placedArguments =
        [[(11, ['1']), (14, "\"é\\\"a)\" + \"b\"".toList), (31, ['v'])]] := by decide +kernel
    rw [calls] at places
    exact (List.cons.inj places).1
  obtain ⟨arguments, -, literals⟩ := constructorCalls_literals_agree found
  have literal := literals 14 "\"é\\\"a)\" + \"b\"".toList (by simp [placed])
  obtain ⟨reading, inPlace, -, inside, taken⟩ := literal.2 rfl
  exact ⟨call, found, by rw [← arguments, placed]; rfl, reading, inPlace, inside, taken⟩

end QuestRecords.Source
