import QuestRecords.Proofs.Source.Statements

namespace QuestRecords.Source

open Text

def classHead (className : Identifier) : Text :=
  "public class ".toList ++ (className.text ++ [' ']) ++ ['\x7b']

/-- A member without parameters, behind its return type. -/
def memberSource (type name body : Text) : Text :=
  type ++ ' ' :: (name ++ ("() \x7b".toList ++ (body ++ ['\x7d'])))

/-- A class with a member that sets something up and a member that returns a list. -/
def classSource (className : Identifier) (setup setupBody element list listBody : Text) : Text :=
  classHead className ++ (memberSource " void".toList setup setupBody ++
    (memberSource (" public List<".toList ++ (element ++ ['>'])) list listBody ++ " \x7d".toList))

theorem memberSource_append (type name body after : Text) :
    memberSource type name body ++ after =
      type ++ ' ' :: (name ++ ("() \x7b".toList ++ (body ++ '\x7d' :: after))) := by
  rw [memberSource]
  generalize "() \x7b".toList = parameters
  simp

def beforeSetup (className : Identifier) (setup : Text) : Text :=
  classHead className ++ (" void ".toList ++ (setup ++ "() ".toList))

def beforeList (element list : Text) : Text :=
  "\x7d public List<".toList ++ (element ++ ("> ".toList ++ (list ++ "() ".toList)))

theorem classSource_eq (className : Identifier) (setup setupBody element list listBody : Text) :
    classSource className setup setupBody element list listBody =
      (beforeSetup className setup ++ ['\x7b']) ++ (setupBody ++
        ((beforeList element list ++ ['\x7b']) ++ (listBody ++ "\x7d \x7d".toList))) := by
  unfold beforeList
  simp [classSource, memberSource, beforeSetup]

theorem Member.bodyStart?_parameterless (body : Text) :
    bodyStart? ("() \x7b".toList ++ body) = some body := rfl

theorem isIdentifierPart_of_mem {name : Text} (valid : isIdentifier name = true) {c : Char}
    (member : c ∈ name) : isIdentifierPart c = true :=
  (Identifier.mk name valid).part_of_mem c member

section

variable {className : Identifier} {setup setupBody element list listBody : Text}

/-- Nothing is declared by the head of the class. -/
theorem bodiless_classHead {name : Text} (valid : isIdentifier name = true) (tail : Text) :
    Member.Bodiless name (classHead className) tail := by
  apply Member.Bodiless.of_brace
  · intro member
    exact absurd (isIdentifierPart_of_mem valid member) (by decide)
  · have named := className.not_mem (c := '(') (by decide)
    simp [named]

theorem locate?_setup (valid : isIdentifier setup = true)
    (absent : setup.head? ∉ " void ".toList.map some) (opening : '\x7b' ∉ setupBody)
    (closing : '\x7d' ∉ setupBody) :
    (Member.locate? (classSource className setup setupBody element list listBody) setup).map
      (·.body) = some setupBody := by
  have solid : ' ' ∉ setup := fun member =>
    absurd (isIdentifierPart_of_mem valid member) (by decide)
  obtain ⟨c, rest, rfl, -, -⟩ := (Identifier.mk setup valid).exists_cons
  rw [classSource, memberSource_append, ← List.append_assoc]
  refine Member.locate?_eq (List.cons_ne_nil _ _) solid (by decide) ?_ ?_ ?_
    (Member.bodyStart?_parameterless _) opening closing
  · rw [List.append_assoc _ " void".toList]
    refine (bodiless_classHead valid _).append (.of_head ?_)
    exact fun member => absent (List.mem_map_of_mem member)
  · simp only [List.reverse_append]
    rfl
  · rfl

theorem locate?_list {Part : Type} {write : Part → Text} {parts : List Part}
    (statements : Statements write) (laid : Laid write parts setupBody)
    (valid : isIdentifier list = true)
    (absent : list.head? ∉
      (setup ++ element ++ " void () \x7b\x7d public List<> ".toList).map some)
    (opening : '\x7b' ∉ listBody) (closing : '\x7d' ∉ listBody) :
    (Member.locate? (classSource className setup setupBody element list listBody) list).map
      (·.body) = some listBody := by
  have solid : ' ' ∉ list := fun member =>
    absurd (isIdentifierPart_of_mem valid member) (by decide)
  have apart : ';' ∉ list := fun member =>
    absurd (isIdentifierPart_of_mem valid member) (by decide)
  obtain ⟨c, rest, rfl, start, -⟩ := (Identifier.mk list valid).exists_cons
  have gap : isGap c = false :=
    isGap_of_isIdentifierPart (isIdentifierPart_of_isIdentifierStart start)
  have others : c ∉ setup ++ element ++ " void () \x7b\x7d public List<> ".toList :=
    fun member => absent (List.mem_map_of_mem member)
  have first : ∀ tail, Member.Bodiless (c :: rest) (memberSource " void".toList setup setupBody)
      tail := by
    intro tail
    have whole : memberSource " void".toList setup setupBody =
        (" void".toList ++ ' ' :: (setup ++ "() \x7b".toList)) ++ (setupBody ++ ['\x7d']) := by
      have same := memberSource_append " void".toList setup setupBody []
      simpa using same
    rw [whole]
    refine .append (.of_head ?_) (.append (laid.bodiless statements gap apart _) (.of_head ?_))
    · simp_all
    · simp_all
  rw [classSource, memberSource_append _ (c :: rest), ← List.append_assoc, ← List.append_assoc]
  refine Member.locate?_eq (List.cons_ne_nil _ _) solid (by decide) ?_ ?_ ?_
    (Member.bodyStart?_parameterless _) opening closing
  · rw [List.append_assoc _ (" public List<".toList ++ _)]
    refine .append (.append (bodiless_classHead valid _) (first _)) (.of_head ?_)
    simp_all
  · simp only [List.reverse_append, List.reverse_singleton]
    rfl
  · rfl

end

end QuestRecords.Source
