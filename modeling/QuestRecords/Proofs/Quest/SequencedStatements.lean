import QuestRecords.Proofs.Quest.FirstMentions
import QuestRecords.Proofs.Source.SequencedCalls
import QuestRecords.Quest.Grouping

/-! What is extracted from a body of two statements with a semicolon between them. When the calls that
begin in the first statement are closed there, rewards, requirements and panels are read from the one
and then from the other. -/
namespace QuestRecords

open Source Text

section

variable {typeName first : Text} (absent : ';' ∉ typeName) (closes : ClosesCalls typeName first)
  {β : Type} {read : Call → Option β}
  (unplaced : ∀ distance call, read (call.shifted distance) = read call) (later : Text)
include absent closes unplaced

/-- What is read of each call, wherever it stands, is read statement by statement. -/
theorem filterMap_constructorCalls_sequence :
    (constructorCalls (first ++ ';' :: later) typeName).filterMap read =
      (constructorCalls first typeName).filterMap read ++
        (constructorCalls later typeName).filterMap read := by
  rw [constructorCalls_sequence absent closes, List.filterMap_append, List.filterMap_map]
  congr 2
  exact funext (unplaced _)

/-- The first call that can be read stands in the first statement, if one does there. -/
theorem findSome?_constructorCalls_sequence :
    (constructorCalls (first ++ ';' :: later) typeName).findSome? read =
      ((constructorCalls first typeName).findSome? read).or
        ((constructorCalls later typeName).findSome? read) := by
  rw [← List.head?_filterMap, filterMap_constructorCalls_sequence absent closes unplaced,
    List.head?_append, List.head?_filterMap, List.head?_filterMap]

end

/-- Panels, and what is told about them, statement by statement. -/
theorem Grouping.extract_sequence {first : Text} (closes : ClosesCalls "PanelDetails".toList first)
    (later : Text) :
    extract (first ++ ';' :: later) = do return (← extract first) ++ (← extract later) := by
  have unplaced : ∀ distance, ofCall ∘ Call.shifted distance = ofCall := fun _ => rfl
  simp only [extract, constructorCalls_sequence (by decide +kernel) closes, List.mapM_append,
    List.mapM_map, unplaced, bind_assoc, pure_bind, List.filterMap_append]

/-- The calls in a body of two statements, for a type name without a semicolon, as every identifier
is one: if each call that begins in the first statement is closed there, the calls are those of the
first statement and then those of the second one, so much later in the text. Under that condition for
the type concerned, rewards, required skills and panels are those of the one statement and then those
of the other, repetitions included; required quests are the same without the later repetitions; and
the points are the first ones that can be read in the first statement, or else those of the
second. -/
theorem extract_statement_by_statement (first later : Text) :
    (∀ typeName, ';' ∉ typeName → ClosesCalls typeName first →
      constructorCalls (first ++ ';' :: later) typeName =
        constructorCalls first typeName ++
          (constructorCalls later typeName).map (Call.shifted (width first + 1))) ∧
    (ClosesCalls "ExperienceReward".toList first →
      Reward.experience (first ++ ';' :: later) =
        Reward.experience first ++ Reward.experience later) ∧
    (ClosesCalls "SkillRequirement".toList first →
      Requirement.skills (first ++ ';' :: later) =
        Requirement.skills first ++ Requirement.skills later) ∧
    (ClosesCalls "PanelDetails".toList first →
      (Grouping.extract (first ++ ';' :: later)).value =
        (Grouping.extract first).value ++ (Grouping.extract later).value ∧
      (Grouping.extract (first ++ ';' :: later)).events =
        (Grouping.extract first).events ++ (Grouping.extract later).events) ∧
    (ClosesCalls "QuestRequirement".toList first →
      Requirement.quests (first ++ ';' :: later) =
        (Requirement.quests first ++ Requirement.quests later).eraseDups) ∧
    (ClosesCalls "QuestPointReward".toList first →
      Reward.questPoints (first ++ ';' :: later) =
        ((constructorCalls first "QuestPointReward".toList).findSome? Reward.soleInteger?).getD
          (Reward.questPoints later)) := by
  refine ⟨fun typeName absent closes => constructorCalls_sequence absent closes later, ?_, ?_, ?_, ?_,
    ?_⟩
  · intro closes
    exact filterMap_constructorCalls_sequence (by decide +kernel) closes (fun _ _ => rfl) later
  · intro closes
    exact filterMap_constructorCalls_sequence (by decide +kernel) closes (fun _ _ => rfl) later
  · intro closes
    rw [Grouping.extract_sequence closes]
    simp only [Logged.value_bind, Logged.value_pure, Logged.events_bind, Logged.events_pure,
      List.append_nil, and_self]
  · intro closes
    rw [Requirement.quests, Reward.typeName,
      filterMap_constructorCalls_sequence (by decide +kernel) closes (fun _ _ => rfl),
      ← Requirement.firstOccurrences_append, firstOccurrences_eq_eraseDups]
    rfl
  · intro closes
    rw [Reward.questPoints, Reward.typeName,
      findSome?_constructorCalls_sequence (by decide +kernel) closes (fun _ _ => rfl), Option.getD_or]
    rfl

def firstCourse : Text :=
  "f(new ExperienceReward(Skill.A, 5), ".toList ++ "new SkillRequirement(Skill.D, 7), ".toList ++
    "\"é; new PanelDetails(1)\", ".toList ++ "new QuestRequirement(".toList ++
    "QuestHelperQuest.B))".toList

def laterCourses : Text :=
  "new ExperienceReward(Skill.A, 5);".toList ++ "new SkillRequirement(Skill.E, 8);".toList ++
    "new QuestPointReward(2);".toList ++ "new QuestRequirement(".toList ++ "QuestHelperQuest.B);".toList ++
    "new PanelDetails(\"C\")".toList

theorem extract_statement_by_statement_courses :
    (∀ typeName ∈ ["ExperienceReward", "SkillRequirement", "PanelDetails", "QuestRequirement",
      "QuestPointReward"], ClosesCalls typeName.toList firstCourse) ∧
      (constructorCalls (firstCourse ++ ';' :: laterCourses) "ExperienceReward".toList).map
        Call.start = [2, 139] ∧
      Reward.experience (firstCourse ++ ';' :: laterCourses) = [⟨"A", 5⟩, ⟨"A", 5⟩] ∧
      Requirement.skills (firstCourse ++ ';' :: laterCourses) = [⟨"D", 7⟩, ⟨"E", 8⟩] ∧
      (Grouping.extract (firstCourse ++ ';' :: laterCourses)).value = [⟨"C", []⟩] ∧
      Requirement.quests (firstCourse ++ ';' :: laterCourses) = ["B"] ∧
      Reward.questPoints (firstCourse ++ ';' :: laterCourses) = 2 := by
  have closes : ∀ typeName ∈ ["ExperienceReward", "SkillRequirement", "PanelDetails",
      "QuestRequirement", "QuestPointReward"], ClosesCalls typeName.toList firstCourse := by
    intro typeName member
    have solid : ∀ typeName ∈ ["ExperienceReward", "SkillRequirement", "PanelDetails",
        "QuestRequirement", "QuestPointReward"],
        ∃ c, typeName.toList.head? = some c ∧ isGap c = false := by
      simp [isGap]
    apply (closesCalls_iff (solid typeName member)).mpr
    revert typeName
    decide +kernel
  obtain ⟨calls, experience, skills, panels, quests, points⟩ :=
    extract_statement_by_statement firstCourse laterCourses
  refine ⟨closes, ?_, ?_, ?_, ?_, ?_, ?_⟩
  · rw [calls _ (by decide +kernel) (closes "ExperienceReward" (by decide))]
    decide +kernel
  · rw [experience (closes _ (by decide))]
    decide +kernel
  · rw [skills (closes _ (by decide))]
    decide +kernel
  · rw [(panels (closes _ (by decide))).1]
    decide +kernel
  · rw [quests (closes _ (by decide))]
    decide +kernel
  · rw [points (closes _ (by decide))]
    decide +kernel

end QuestRecords
