import QuestRecords.Proofs.Source.Numerals
import QuestRecords.Proofs.Source.Statements
import QuestRecords.Quest.ItemText

namespace QuestRecords

open Source Text

/-- The text of an item as a setup statement may show it. -/
structure ItemLabel where
  text : Text
  noEquals : '=' ∉ text
  noOpening : '\x7b' ∉ text
  noClosing : '\x7d' ∉ text

/-- Statements that bind the text of an item, or make an alias. -/
inductive SetupStatement where
  | item (name : Identifier) (type : String) (known : type ∈ ItemTexts.itemTypes)
      (label : ItemLabel)
  | highlighted (name base : Identifier)
  | quantity (name base : Identifier) (count : Int)

namespace SetupStatement

def target : SetupStatement → Identifier
  | item name .. => name
  | highlighted name _ => name
  | quantity name .. => name

def value : SetupStatement → Text
  | item _ type _ label =>
    "new ".toList ++ (type.toList ++ '(' :: (Literal.quote label.text ++ ", 1)".toList))
  | highlighted _ base => base.text ++ ".highlighted()".toList
  | quantity _ base count => base.text ++ (".quantity(".toList ++ (numeral count ++ [')']))

def text (statement : SetupStatement) : Text :=
  statement.target.text ++ (" = ".toList ++ (statement.value ++ [';']))

def direct? : SetupStatement → Option (String × String)
  | item name _ _ label => some (name.name, String.ofList label.text)
  | _ => none

def alias? : SetupStatement → Option (String × String)
  | item .. => none
  | highlighted name base => some (name.name, base.name)
  | quantity name base _ => some (name.name, base.name)

end SetupStatement

namespace ItemTexts

/-- An item that was found, by its name and its text. -/
def readable? (item : Text × Text) : Option (String × String) :=
  (Literal.chain? item.2).map fun shown => (String.ofList item.1, String.ofList shown.1)

/-- The text bound at a place, if it can be read. -/
def directText? (site : Site) : Option (String × String) := (directAt? site).bind readable?

/-- The alias made at a place. -/
def aliasNames? (site : Site) : Option (String × String) :=
  (aliasAt? site).map fun link => (String.ofList link.1, String.ofList link.2)

theorem isSome_assigned?_of_directText? {site : Site} {found : String × String}
    (read : directText? site = some found) : (assigned? site).isSome = true := by
  obtain ⟨item, direct, -⟩ := Option.bind_eq_some_iff.mp read
  obtain ⟨parts, assigned, -⟩ := Option.bind_eq_some_iff.mp direct
  exact Option.isSome_iff_exists.mpr ⟨parts, assigned⟩

theorem isSome_assigned?_of_aliasNames? {site : Site} {found : String × String}
    (read : aliasNames? site = some found) : (assigned? site).isSome = true := by
  obtain ⟨names, linked, -⟩ := Option.map_eq_some_iff.mp read
  obtain ⟨parts, assigned, -⟩ := Option.bind_eq_some_iff.mp linked
  exact Option.isSome_iff_exists.mpr ⟨parts, assigned⟩

theorem foldl_bindText (entries : List (String × String)) (texts : ItemTexts) :
    entries.foldl (fun texts entry => texts.bindText entry.1 entry.2) texts =
      ⟨entries.foldl (fun direct entry => direct.insertFirst entry.1 entry.2) texts.direct,
        texts.aliases⟩ := by
  induction entries generalizing texts with
  | nil => rfl
  | cons entry entries ih =>
    rw [List.foldl_cons, ih]
    rfl

theorem foldl_bindAlias (entries : List (String × String)) (texts : ItemTexts) :
    entries.foldl (fun texts entry => texts.bindAlias entry.1 entry.2) texts =
      ⟨texts.direct,
        entries.foldl (fun aliases entry => aliases.insertFirst entry.1 entry.2) texts.aliases⟩ := by
  induction entries generalizing texts with
  | nil => rfl
  | cons entry entries ih =>
    rw [List.foldl_cons, ih]
    rfl

theorem value_foldlM_addDirect (items : List (Text × Text)) (texts : ItemTexts) :
    (items.foldlM addDirect texts).value =
      (items.filterMap readable?).foldl (fun texts entry => texts.bindText entry.1 entry.2)
        texts := by
  induction items generalizing texts with
  | nil => rfl
  | cons item items ih =>
    rw [List.foldlM_cons, Logged.value_bind, ih, List.filterMap_cons, addDirect, readable?]
    cases Literal.chain? item.2 <;> rfl

theorem extract_value (body : Text) (name : String) :
    (extract body).value.direct.get? name = (findAll directText? body).lookup name ∧
      (extract body).value.aliases.get? name = (findAll aliasNames? body).lookup name := by
  have texts : findAll directText? body = (findAll directAt? body).filterMap readable? :=
    List.filterMap_filterMap.symm
  have links : findAll aliasNames? body =
      (findAll aliasAt? body).map fun link => (String.ofList link.1, String.ofList link.2) :=
    List.map_filterMap.symm
  have value : (extract body).value =
      (findAll aliasNames? body).foldl (fun texts link => texts.bindAlias link.1 link.2)
        ((findAll directText? body).foldl (fun texts item => texts.bindText item.1 item.2) {}) := by
    rw [texts, ← value_foldlM_addDirect, links, List.foldl_map]
    rfl
  rw [value, foldl_bindText, foldl_bindAlias]
  exact ⟨Bindings.get?_foldl_insertFirst _ _ _, Bindings.get?_foldl_insertFirst _ _ _⟩

/-- An item of a known type is read up to its arguments. -/
theorem newOfAny?_itemTypes {type : String} (known : type ∈ itemTypes) (rest : Text) :
    newOfAny? itemTypes ("new ".toList ++ (type.toList ++ '(' :: rest)) = some ('(' :: rest) := by
  rw [itemTypes, List.mem_cons, List.mem_cons, List.mem_singleton] at known
  rcases known with rfl | rfl | rfl
  · rfl
  · rfl
  · rfl

theorem newOfAny?_identifier (typeNames : List String) (base : Identifier) (rest : Text) :
    newOfAny? typeNames (base.text ++ '.' :: rest) = none := by
  cases read : newOfAny? typeNames (base.text ++ '.' :: rest) with
  | none => rfl
  | some paren =>
    obtain ⟨afterNew, new, read⟩ := Option.bind_eq_some_iff.mp read
    obtain ⟨typed, blanks, -⟩ := Option.bind_eq_some_iff.mp read
    cases afterNew with
    | nil => cases blanks
    | cons c tail =>
      obtain ⟨blank, -⟩ := Option.ite_none_right_eq_some.mp blanks
      have begins : "new".toList ++ [c] <+: base.text ++ '.' :: rest :=
        ⟨tail, by rw [after?_eq_some_iff.mp new, List.append_assoc]; rfl⟩
      have noDot : '.' ∉ "new".toList ++ [c] := by
        intro member
        rcases List.mem_append.mp member with inNew | same
        · exact absurd inNew (by decide)
        · rw [← List.mem_singleton.mp same] at blank
          exact absurd blank (by decide)
      have inside := (prefix_of_prefix_append_cons begins noDot).subset
        (List.mem_append_right _ List.mem_cons_self)
      simp [isBlank_of_isIdentifierPart (base.part_of_mem c inside)] at blank

section

variable {site : Site} {name : Text}

theorem directText?_of_item {type : String} (known : type ∈ itemTypes) (label : Text) {rest : Text}
    (ends : ¬ Literal.Continues rest)
    (assigned : assigned? site =
      some (name, "new ".toList ++ (type.toList ++ '(' :: (Literal.quote label ++ rest)))) :
    directText? site = some (String.ofList name, String.ofList label) := by
  have opened : skipBlanks (Literal.quote label ++ rest) =
      '"' :: (label.flatMap Literal.escaped ++ ['"'] ++ rest) := rfl
  have direct : directAt? site = some (name, Literal.quote label ++ rest) := by
    rw [directAt?, assigned]
    simp only [Option.bind_eq_bind, Option.bind_some, newOfAny?_itemTypes known, opened]
    rfl
  rw [directText?, direct, Option.bind_some, readable?, Literal.chain?_quote label ends,
    Option.map_some]

theorem directText?_of_base (base : Identifier) {rest : Text}
    (assigned : assigned? site = some (name, base.text ++ '.' :: rest)) :
    directText? site = none := by
  rw [directText?, directAt?, assigned]
  simp only [Option.bind_eq_bind, Option.bind_some, newOfAny?_identifier, Option.bind_none]

theorem aliasNames?_of_item {type : String} (known : type ∈ itemTypes) {rest : Text}
    (assigned : assigned? site = some (name, "new ".toList ++ (type.toList ++ rest))) :
    aliasNames? site = none := by
  rw [aliasNames?, aliasAt?, assigned]
  simp only [Option.bind_eq_bind, Option.bind_some]
  rw [itemTypes, List.mem_cons, List.mem_cons, List.mem_singleton] at known
  rcases known with rfl | rfl | rfl
  · rfl
  · rfl
  · rfl

theorem aliasNames?_of_base (base : Identifier) {rest after : Text}
    (assigned : assigned? site = some (name, base.text ++ '.' :: rest))
    (modified : modifier? (skipBlanks rest) = some after) :
    aliasNames? site = some (String.ofList name, base.name) := by
  have dot : isWord '.' = false := by decide +kernel
  have signed : Reader.spacedChar? '.' ('.' :: rest) = some rest := rfl
  rw [aliasNames?, aliasAt?, assigned]
  simp only [Option.bind_eq_bind, Option.bind_some, base.name?_append dot, signed, modified]
  rfl

end

end ItemTexts

namespace SetupStatement

theorem not_mem_value (statement : SetupStatement) {c : Char}
    (special : c = '=' ∨ c = '\x7b' ∨ c = '\x7d') : c ∉ statement.value := by
  have part : isIdentifierPart c = false := by rcases special with rfl | rfl | rfl <;> decide
  have written : c ∉ "new (, 1).highlighted()quantity".toList := by
    rcases special with rfl | rfl | rfl <;> decide
  cases statement with
  | item name type known label =>
    have typed : c ∉ type.toList := by
      rw [ItemTexts.itemTypes, List.mem_cons, List.mem_cons, List.mem_singleton] at known
      rcases known with rfl | rfl | rfl <;> rcases special with rfl | rfl | rfl <;> decide
    have shown : c ∉ Literal.quote label.text := by
      intro member
      rcases Literal.mem_quote member with rfl | rfl | inside
      · exact absurd special (by decide)
      · exact absurd special (by decide)
      · rcases special with rfl | rfl | rfl
        · exact label.noEquals inside
        · exact label.noOpening inside
        · exact label.noClosing inside
    simp_all [value]
  | highlighted name base => simp_all [value, base.not_mem part]
  | quantity name base count =>
    have digit : c ∉ numeral count :=
      not_mem_numeral count (by rintro rfl; exact absurd special (by decide)) part
    simp_all [value, base.not_mem part]

theorem statements : Statements text := by
  intro statement
  refine ⟨statement.target.text ++ (" = ".toList ++ statement.value), by simp [text], ?_, ?_⟩
  · have named := statement.target.not_mem (c := '\x7b') (by decide)
    simp [named, statement.not_mem_value]
  · have named := statement.target.not_mem (c := '\x7d') (by decide)
    simp [named, statement.not_mem_value]

theorem exists_head_value (statement : SetupStatement) (tail : Text) :
    ∃ c, (statement.value ++ tail).head? = some c ∧ isBlank c = false := by
  have named : ∀ (base : Identifier) (rest : Text),
      ∃ c, (base.text ++ rest).head? = some c ∧ isBlank c = false := by
    intro base rest
    obtain ⟨c, others, same, start, -⟩ := base.exists_cons
    refine ⟨c, by simp [same], ?_⟩
    exact isBlank_of_isIdentifierPart (isIdentifierPart_of_isIdentifierStart start)
  cases statement with
  | item => exact ⟨'n', rfl, by decide⟩
  | highlighted _ base =>
    rw [value, List.append_assoc]
    exact named base _
  | quantity _ base =>
    rw [value, List.append_assoc]
    exact named base _

/-- A statement is read up to what it assigns. -/
theorem assigned?_eq (statement : SetupStatement) {behind : Text} (start : AtStatement behind)
    (tail : Text) :
    assigned? ⟨behind, statement.target.text ++ (" = ".toList ++ (statement.value ++ tail))⟩ =
      some (statement.target.text, statement.value ++ tail) := by
  obtain ⟨c, first, solid⟩ := statement.exists_head_value tail
  exact assigned?_written statement.target start first solid

theorem value_item_append (name : Identifier) (type : String) (known : type ∈ ItemTexts.itemTypes)
    (label : ItemLabel) (tail : Text) : (item name type known label).value ++ tail =
      "new ".toList ++ (type.toList ++ '(' :: (Literal.quote label.text ++ (", 1)".toList ++ tail))) := by
  simp [value]

theorem value_highlighted_append (name base : Identifier) (tail : Text) :
    (highlighted name base).value ++ tail = base.text ++ '.' :: ("highlighted()".toList ++ tail) := by
  simp [value]

theorem value_quantity_append (name base : Identifier) (count : Int) (tail : Text) :
    (quantity name base count).value ++ tail =
      base.text ++ '.' :: ("quantity(".toList ++ (numeral count ++ ')' :: tail)) := by
  simp [value]

theorem foundIn_directText? (statement : SetupStatement) (behind tail : Text)
    (start : AtStatement behind) :
    foundIn ItemTexts.directText? behind statement.text tail = statement.direct?.toList := by
  have silent : ∀ behind, foundIn ItemTexts.directText? behind statement.value (';' :: tail) = [] :=
    fun _ => foundIn_of_noEquals (fun _ _ => ItemTexts.isSome_assigned?_of_directText?)
      (by decide +kernel) (statement.not_mem_value (.inl rfl))
  rw [text, foundIn_assignment (fun _ _ => ItemTexts.isSome_assigned?_of_directText?) _ silent]
  congr 1
  have assigned := statement.assigned?_eq start (';' :: tail)
  cases statement with
  | item name type known label =>
    have ends : ¬ Literal.Continues (", 1)".toList ++ ';' :: tail) :=
      Literal.continuation?_eq_none_iff.mp rfl
    rw [value_item_append] at assigned ⊢
    exact ItemTexts.directText?_of_item known label.text ends assigned
  | highlighted name base =>
    rw [value_highlighted_append] at assigned ⊢
    exact ItemTexts.directText?_of_base base assigned
  | quantity name base count =>
    rw [value_quantity_append] at assigned ⊢
    exact ItemTexts.directText?_of_base base assigned

theorem foundIn_aliasNames? (statement : SetupStatement) (behind tail : Text)
    (start : AtStatement behind) :
    foundIn ItemTexts.aliasNames? behind statement.text tail = statement.alias?.toList := by
  have silent : ∀ behind, foundIn ItemTexts.aliasNames? behind statement.value (';' :: tail) = [] :=
    fun _ => foundIn_of_noEquals (fun _ _ => ItemTexts.isSome_assigned?_of_aliasNames?)
      (by decide +kernel) (statement.not_mem_value (.inl rfl))
  rw [text, foundIn_assignment (fun _ _ => ItemTexts.isSome_assigned?_of_aliasNames?) _ silent]
  congr 1
  have assigned := statement.assigned?_eq start (';' :: tail)
  cases statement with
  | item name type known label =>
    rw [value_item_append] at assigned ⊢
    exact ItemTexts.aliasNames?_of_item known assigned
  | highlighted name base =>
    rw [value_highlighted_append] at assigned ⊢
    exact ItemTexts.aliasNames?_of_base base assigned rfl
  | quantity name base count =>
    rw [value_quantity_append] at assigned ⊢
    exact ItemTexts.aliasNames?_of_base base assigned rfl

/-- What is read of a laid out setup is what its statements bind, of each name the first. -/
theorem extract_laid {setup : List SetupStatement} {body : Text} (laid : Laid text setup body)
    (name : String) :
    (ItemTexts.extract body).value.direct.get? name = (setup.filterMap direct?).lookup name ∧
      (ItemTexts.extract body).value.aliases.get? name = (setup.filterMap alias?).lookup name := by
  have texts : findAll ItemTexts.directText? body = setup.filterMap direct? := by
    rw [findAll_eq_foundIn, foundIn_laid statements _ direct? foundIn_directText? laid .nil]
    intro c gap behind ahead
    rw [ItemTexts.directText?, ItemTexts.directAt?,
      assigned?_of_head (isIdentifierStart_of_isGap gap)]
    rfl
  have links : findAll ItemTexts.aliasNames? body = setup.filterMap alias? := by
    rw [findAll_eq_foundIn, foundIn_laid statements _ alias? foundIn_aliasNames? laid .nil]
    intro c gap behind ahead
    rw [ItemTexts.aliasNames?, ItemTexts.aliasAt?,
      assigned?_of_head (isIdentifierStart_of_isGap gap)]
    rfl
  rw [← texts, ← links]
  exact ItemTexts.extract_value body name

end SetupStatement
end QuestRecords
