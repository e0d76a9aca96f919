import QuestRecords.Proofs.Json.WrittenTokens

namespace QuestRecords.Json

/-- A document in which every part has a value and every number is whole and fits 64 bits. -/
inductive Exact : Json → Prop where
  | null : Exact null
  | bool (value : Bool) : Exact (bool value)
  | whole {value : Int} (above : Int64.minValue.toInt ≤ value)
      (below : value ≤ Literal.significandLimit) : Exact (number (.whole value))
  | string (value : String) : Exact (string value)
  | array {items : List Json} (each : ∀ item ∈ items, Exact item) : Exact (array items)
  | object {members : List (String × Json)} (each : ∀ member ∈ members, Exact member.2) :
      Exact (object members)

/-- Items are read back from what was written of them, one by one. -/
theorem mapM_map_eq_some {α β : Type} {read : β → Option α} {write : α → β}
    (inverse : ∀ item, read (write item) = some item) (items : List α) :
    (items.map write).mapM read = some items := by
  induction items with
  | nil => rfl
  | cons item items ih =>
    rw [List.map_cons, List.mapM_cons, inverse, ih]
    rfl

namespace Machine

/-- Where a value is expected, tokens make a value. -/
def Builds (tokens : List Token) (value : Json) : Prop :=
  ∀ stack, tokens.foldlM step? ⟨.value, stack⟩ = some ⟨.done value, stack⟩

/-- Where an item is expected, tokens make items, behind which the array is closed. -/
def BuildsItems (tokens : List Token) (items : List Json) : Prop :=
  ∀ before stack, (tokens ++ [Token.closeBracket]).foldlM step? ⟨.value, .items before :: stack⟩ =
    some ⟨.done (.array (before.reverse ++ items)), stack⟩

def named (member : String × Json) : Option String × Json := (some member.1, member.2)

/-- Where a name is expected, tokens make members, behind which the object is closed. -/
def BuildsMembers (tokens : List Token) (members : List (String × Json)) : Prop :=
  ∀ before stack, (tokens ++ [Token.closeBrace]).foldlM step? ⟨.name before, stack⟩ =
    some ⟨.done (closeObject ((members.map named).reverse ++ before)), stack⟩

variable {tokens : List Token} {stack left : List Frame} {value : Json}

theorem run_itemOrClose
    (run : tokens.foldlM step? ⟨.value, .items [] :: stack⟩ = some ⟨.done value, left⟩) :
    tokens.foldlM step? ⟨.itemOrClose, stack⟩ = some ⟨.done value, left⟩ := by
  cases tokens with
  | nil => cases run
  | cons token tokens =>
    cases token with
    | closeBracket => cases run
    | _ => exact run

theorem run_nameOrClose
    (run : tokens.foldlM step? ⟨.name [], stack⟩ = some ⟨.done value, left⟩) :
    tokens.foldlM step? ⟨.nameOrClose, stack⟩ = some ⟨.done value, left⟩ := by
  cases tokens with
  | nil => cases run
  | cons token tokens =>
    cases token with
    | text name => exact run
    | _ => cases run

theorem closeObject_named (members : List (String × Json)) :
    closeObject (members.map named).reverse = .object members := by
  rw [closeObject, List.reverse_reverse, mapM_map_eq_some]
  exact fun member => rfl

end Machine

/-- A document is spelled by tokens that make it. -/
def Spelled (level : Nat) (json : Json) : Prop :=
  ∃ tokens, Token.Spells (indented level json) tokens ∧ Machine.Builds tokens json

open Token (Spells)

variable {level : Nat}

theorem Spelled.items {item : Json} {rest : List Json}
    (each : ∀ part ∈ item :: rest, Spelled level part) :
    ∃ tokens, Spells (indentedItems level (item :: rest)) tokens ∧
      Machine.BuildsItems tokens (item :: rest) := by
  induction rest generalizing item with
  | nil =>
    obtain ⟨tokens, spells, builds⟩ := each item List.mem_cons_self
    refine ⟨tokens, spells.newLine level, ?_⟩
    intro before stack
    rw [List.foldlM_append, builds, ← List.reverse_cons]
    rfl
  | cons next rest ih =>
    obtain ⟨⟨tokens, spells, builds⟩, later⟩ := List.forall_mem_cons.mp each
    obtain ⟨others, more, buildsMore⟩ := ih later
    refine ⟨tokens ++ .comma :: others, ?_, ?_⟩
    · rw [indentedItems]
      · exact (spells.newLine level).append rfl (more.punctuation rfl)
      · rintro ⟨⟩
    · intro before stack
      have run := buildsMore (item :: before) stack
      rw [List.reverse_cons, List.append_assoc] at run
      rw [List.append_assoc, List.foldlM_append, builds]
      exact run

section

variable {name : String} {value : Json} {tokens : List Token}

theorem spells_member (spells : Spells (indented level value) tokens) :
    Spells (newLine level ++ quote name ++ ':' :: ' ' :: indented level value)
      (.text (some name) :: .colon :: tokens) :=
  ((Spells.quote name).newLine level).append rfl ((spells.space rfl).punctuation rfl)

theorem run_member (builds : Machine.Builds tokens value) (others : List Token)
    (before : List (Option String × Json)) (stack : List Frame) :
    (.text (some name) :: .colon :: (tokens ++ others)).foldlM Machine.step?
        ⟨.name before, stack⟩ =
      others.foldlM Machine.step? ⟨.done value, .members before (some name) :: stack⟩ := by
  have run : (tokens ++ others).foldlM Machine.step?
      ⟨.value, .members before (some name) :: stack⟩ =
        others.foldlM Machine.step? ⟨.done value, .members before (some name) :: stack⟩ := by
    rw [List.foldlM_append, builds]
    rfl
  exact run

end

theorem Spelled.members {member : String × Json} {rest : List (String × Json)}
    (each : ∀ part ∈ member :: rest, Spelled level part.2) :
    ∃ tokens, Spells (indentedMembers level (member :: rest)) tokens ∧
      Machine.BuildsMembers tokens (member :: rest) := by
  induction rest generalizing member with
  | nil =>
    obtain ⟨tokens, spells, builds⟩ := each member List.mem_cons_self
    refine ⟨_, spells_member spells, ?_⟩
    intro before stack
    rw [List.cons_append, List.cons_append, run_member builds]
    rfl
  | cons next rest ih =>
    obtain ⟨⟨tokens, spells, builds⟩, later⟩ := List.forall_mem_cons.mp each
    obtain ⟨others, more, buildsMore⟩ := ih later
    refine ⟨.text (some member.1) :: .colon :: tokens ++ .comma :: others, ?_, ?_⟩
    · rw [indentedMembers]
      · exact (spells_member spells).append rfl (more.punctuation rfl)
      · rintro ⟨⟩
    · intro before stack
      have run := buildsMore (Machine.named member :: before) stack
      rw [List.append_assoc, List.cons_append, List.cons_append, run_member builds,
        List.map_cons, List.reverse_cons, List.append_assoc]
      exact run

/-- Every document of this kind is spelled by what is written for it, at every level. -/
theorem Exact.spelled {json : Json} (exact : Exact json) (level : Nat) : Spelled level json := by
  induction exact generalizing level with
  | null => exact ⟨_, .word (fun _ => rfl) rfl rfl, fun _ => rfl⟩
  | bool value =>
    cases value with
    | true => exact ⟨_, .word (fun _ => rfl) rfl rfl, fun _ => rfl⟩
    | false => exact ⟨_, .word (fun _ => rfl) rfl rfl, fun _ => rfl⟩
  | whole above below => exact ⟨_, .writeInt above below, fun _ => rfl⟩
  | string value => exact ⟨_, .quote value, fun _ => rfl⟩
  | @array items _ each =>
    cases items with
    | nil =>
      refine ⟨[.openBracket, .closeBracket], ?_, fun _ => rfl⟩
      exact .punctuation rfl (.punctuation rfl .nil)
    | cons item rest =>
      obtain ⟨tokens, spells, builds⟩ :=
        Spelled.items fun part member => each part member (level + 1)
      refine ⟨.openBracket :: (tokens ++ [.closeBracket]), ?_, ?_⟩
      · have closed : Spells (newLine level ++ [']']) [.closeBracket] :=
          (Spells.punctuation rfl .nil).newLine level
        have apart : Token.Apart (newLine level ++ [']']) := rfl
        rw [indented, List.cons_append, List.cons_append, List.append_assoc]
        exact (spells.append apart closed).punctuation rfl
      · intro stack
        exact Machine.run_itemOrClose (builds [] stack)
  | @object members _ each =>
    cases members with
    | nil =>
      refine ⟨[.openBrace, .closeBrace], ?_, fun _ => rfl⟩
      exact .punctuation rfl (.punctuation rfl .nil)
    | cons member rest =>
      obtain ⟨tokens, spells, builds⟩ :=
        Spelled.members fun part member => each part member (level + 1)
      refine ⟨.openBrace :: (tokens ++ [.closeBrace]), ?_, ?_⟩
      · have closed : Spells (newLine level ++ ['\x7d']) [.closeBrace] :=
          (Spells.punctuation rfl .nil).newLine level
        have apart : Token.Apart (newLine level ++ ['\x7d']) := rfl
        rw [indented, List.cons_append, List.cons_append, List.append_assoc]
        exact (spells.append apart closed).punctuation rfl
      · intro stack
        have run := builds [] stack
        rw [List.append_nil, Machine.closeObject_named] at run
        exact Machine.run_nameOrClose run

/-- Reading gives back what was written. -/
theorem Exact.read?_pretty {json : Json} (exact : Exact json) : read? json.pretty = some json := by
  obtain ⟨tokens, spells, builds⟩ := exact.spelled 0
  rw [read?, pretty, spells.lex?_eq, Option.bind_some, ofTokens?, builds]
  rfl

end QuestRecords.Json
