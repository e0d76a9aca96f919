import QuestRecords.Proofs.Offsets.Bodies
import QuestRecords.Proofs.Offsets.Members
import QuestRecords.Quest.Extraction

namespace QuestRecords.Offsets

open Text Source

def memberBody (source : Text) (member : QuestMember) : Checked (Option Text) := do
  return (← locate source member.name.toList).map (·.body)

def missingMembers (bodies : List (QuestMember × Option Text)) : List QuestMember :=
  bodies.filterMap fun entry => if entry.2.isNone then some entry.1 else none

def extractAll (source : Text) : Guarded Extraction := do
  let questPointBody ← memberBody source .questPointReward
  let experienceBody ← memberBody source .experienceRewards
  let generalBody ← memberBody source .generalRequirements
  let itemBody ← memberBody source .itemRequirements
  let panelsBody ← memberBody source .panels
  let setupBody ← memberBody source .setupRequirements
  let general := generalBody.getD []
  let skillRequirements ← skillRequirements general
  let questRequirements ← questRequirements general
  let questPointRequirement ← requiredPoints general
  let questPoints ← questPoints (questPointBody.getD [])
  let experienceRewards ← experienceRewards (experienceBody.getD [])
  let lampReward ← lampReward source
  let itemReferences ← itemReferences (itemBody.getD [])
  let steps ← steps source
  let groupings ← panels (panelsBody.getD [])
  let items ← itemTexts (setupBody.getD [])
  let missing := missingMembers [(.questPointReward, questPointBody),
    (.experienceRewards, experienceBody), (.generalRequirements, generalBody),
    (.itemRequirements, itemBody), (.panels, panelsBody), (.setupRequirements, setupBody)]
  let extraction : Extraction := {
    questPoints, experienceRewards, lampReward, skillRequirements, questRequirements,
    questPointRequirement, itemReferences, steps, groupings, items, missing }
  Logged.raiseAll (extraction.missing.map Extraction.missingWarning)
  Logged.raise extraction.doneMessage
  return extraction

theorem memberBody_returns (source : Text) (member : QuestMember) :
    memberBody source member = .ok (member.body? source) := by
  rw [memberBody, locate_returns]
  rfl

theorem missingMembers_map (body? : QuestMember → Option Text) (members : List QuestMember) :
    missingMembers (members.map fun member => (member, body? member)) =
      members.filter fun member => (body? member).isNone := by
  rw [missingMembers, List.filterMap_map, ← List.filterMap_eq_filter]
  rfl

theorem isInfix_of_declared? {name afterName : Text} {site : Site} {member : Member}
    (read : declared? name site afterName = some (some member)) : member.body <:+: afterName := by
  obtain ⟨-, read⟩ := Option.ite_none_right_eq_some.mp read
  obtain ⟨body, started, closed⟩ := Option.map_eq_some_iff.mp read
  obtain ⟨text, ended, same⟩ := Option.map_eq_some_iff.mp closed
  cases same
  rw [← inside?_bodyBraces] at ended
  obtain ⟨rest, split⟩ := exists_append_of_inside? ended
  rcases bodyOpenBrace_append [] afterName with ⟨unread, -⟩ | ⟨inside, other, found, whole, -⟩
  · cases unread.symm.trans started
  · cases found.symm.trans started
    refine ⟨inside ++ ['\x7b'], bodyBraces.closing :: rest, ?_⟩
    simp [whole, split]

theorem isInfix_of_locate? {source name : Text} {member : Member}
    (found : Member.locate? source name = some member) : member.body <:+: source := by
  rw [locate?_eq] at found
  obtain ⟨-, found⟩ := Option.ite_none_left_eq_some.mp found
  obtain ⟨⟨site, afterName⟩, listed, read⟩ :=
    List.exists_of_findSome?_eq_some (Option.join_eq_some_iff.mp found)
  obtain ⟨place, inside, rest, occurs⟩ := mem_findDisjoint listed
  obtain ⟨after, named, same⟩ := Option.map_eq_some_iff.mp occurs
  cases same
  rw [← text_of_mem_sites inside]
  apply (isInfix_of_declared? read).trans
  exact (after?_suffix named).isInfix.trans (ahead_isInfix site)

theorem body_fits {source : Text} (fits : width source < 0x80000000) (member : QuestMember) :
    width (member.body source) < 0x80000000 := by
  rw [QuestMember.body]
  cases found : member.body? source with
  | none => exact Nat.zero_lt_succ _
  | some body =>
    obtain ⟨located, declared, same⟩ := Option.map_eq_some_iff.mp found
    rw [Option.getD_some, ← same]
    exact fits_of_isInfix (isInfix_of_locate? declared) fits

/-- Extraction by offsets never fails, tells the same and finds the same. -/
theorem extractAll_returns {source : Text} (fits : width source < 0x80000000) :
    extractAll source = liftM (Extraction.ofSource source) := by
  have fit := body_fits fits
  have missing := missingMembers_map (fun member => member.body? source) QuestMember.all
  simp only [QuestMember.all, List.map_cons, List.map_nil] at missing
  simp only [extractAll, memberBody_returns, liftM_ok, pure_bind, ← QuestMember.body.eq_def,
    skillRequirements_returns (fit _), questRequirements_returns (fit _),
    requiredPoints_returns (fit _), questPoints_returns (fit _),
    experienceRewards_returns (fit _), itemReferences_returns (fit _), lampReward_returns fits,
    steps_returns fits, panels_returns (fit _), itemTexts_returns, missing]
  simp only [Extraction.ofSource, QuestMember.all, liftM_bind, liftM_pure]

end QuestRecords.Offsets
