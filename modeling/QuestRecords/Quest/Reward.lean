import QuestRecords.Quest.Record
import QuestRecords.Source.Call
import QuestRecords.Source.Token

/-! Quest points and experience given for a quest. -/
namespace QuestRecords.Reward

open Source

def typeName (name : String) : Text := name.toList

/-- The value of a call whose only argument is a whole number. -/
def soleInteger? (call : Call) : Option Int64 :=
  match call.arguments with
  | [amount] => integer? amount
  | _ => none

/-- A constant of a family as first argument and a whole number as second. -/
def constantAndInteger? (family : String) (call : Call) : Option (String × Int64) :=
  match call.arguments with
  | constant :: amount :: _ => do
    let name ← constantOf? family.toList constant
    let value ← integer? amount
    return (String.ofList name, value)
  | _ => none

/-- The points of the first readable point reward; none are given otherwise. -/
def questPoints (body : Text) : Int64 :=
  ((constructorCalls body (typeName "QuestPointReward")).findSome? soleInteger?).getD 0

/-- The experience rewards in the order of the source, repetitions included. -/
def experience (body : Text) : List ExperienceReward :=
  (constructorCalls body (typeName "ExperienceReward")).filterMap fun call =>
    (constantAndInteger? "Skill" call).map fun (skill, xp) => { skill, xp }

end QuestRecords.Reward
