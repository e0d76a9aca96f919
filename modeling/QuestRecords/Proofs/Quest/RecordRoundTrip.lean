import QuestRecords.Proofs.Json.ReadBack
import QuestRecords.Quest.RecordJson

namespace QuestRecords

open Json

namespace Json

variable {α : Type}

theorem list?_map {read : Json → Option α} {write : α → Json}
    (inverse : ∀ item, read (write item) = some item) (items : List α) :
    list? read (.array (items.map write)) = some items :=
  mapM_map_eq_some inverse items

theorem filter_zip {names : List String} (distinct : names.Nodup) {values : List Json}
    {name : String} {value : Json} (stands : (name, value) ∈ names.zip values) :
    (names.zip values).filter (·.1 = name) = [(name, value)] := by
  induction names generalizing values with
  | nil => cases stands
  | cons first names ih =>
    obtain ⟨fresh, distinct⟩ := List.nodup_cons.mp distinct
    cases values with
    | nil => cases stands
    | cons given values =>
      rw [List.zip_cons_cons] at stands ⊢
      rcases List.mem_cons.mp stands with same | later
      · cases same
        have others : (names.zip values).filter (·.1 = name) = [] := by
          rw [List.filter_eq_nil_iff]
          intro member other same
          rw [decide_eq_true_iff] at same
          exact fresh (same ▸ (List.of_mem_zip other).1)
        rw [List.filter_cons_of_pos (by simp), others]
      · have apart : first ≠ name := by
          rintro rfl
          exact fresh (List.of_mem_zip later).1
        rw [List.filter_cons_of_neg (by simpa using apart), ih distinct later]

theorem mapM_zip_eq_some {read : String → Option α} {names : List String} {values : List α}
    (whole : names.length = values.length)
    (each : ∀ entry ∈ names.zip values, read entry.1 = some entry.2) :
    names.mapM read = some values := by
  induction names generalizing values with
  | nil =>
    cases values with
    | nil => rfl
    | cons value values => cases whole
  | cons name names ih =>
    cases values with
    | nil => cases whole
    | cons value values =>
      obtain ⟨first, others⟩ := List.forall_mem_cons.mp each
      rw [List.mapM_cons, first, ih (Nat.succ.inj whole) others]
      rfl

theorem fields?_zip {names : List String} (distinct : names.Nodup) (values : List Json)
    (whole : names.length = values.length) :
    fields? names (.object (names.zip values)) = some (values.map some) := by
  apply mapM_zip_eq_some
  · rw [List.length_map, whole]
  · intro entry member
    rw [List.zip_map_right] at member
    obtain ⟨⟨name, value⟩, stands, rfl⟩ := List.mem_map.mp member
    change member? (names.zip values) name = some (some value)
    rw [member?, filter_zip distinct stands]

theorem nullable?_ofOptional {read : Json → Option α} {write : α → Json}
    (inverse : ∀ value, read (write value) = some value) (filled : ∀ value, write value ≠ .null)
    (value? : Option α) :
    nullable? read (some (QuestRecord.ofOptional write value?)) = some value? := by
  cases value? with
  | none => rfl
  | some value =>
    have present := filled value
    rw [QuestRecord.ofOptional, nullable?, inverse, Option.map_some]
    exact present

theorem long?_ofLong (value : Int64) : long? (ofLong value) = some value := Amount.long?_toInt value

theorem int?_ofInt (value : Int32) : int? (ofInt value.toInt) = some value :=
  Amount.int?_toInt value

namespace Exact

theorem ofLong (value : Int64) : Exact (ofLong value) := by
  have high := value.toInt_lt
  have most : (Literal.significandLimit : Int) = 2 ^ 64 - 1 := rfl
  exact .whole value.le_toInt (by omega)

theorem ofCoordinate (value : Int32) : Exact (ofInt value.toInt) := by
  have low := value.le_toInt
  have high := value.toInt_lt
  have least : Int64.minValue.toInt = -2 ^ 63 := rfl
  have most : (Literal.significandLimit : Int) = 2 ^ 64 - 1 := rfl
  exact .whole (by omega) (by omega)

theorem map {write : α → Json} (each : ∀ item, Exact (write item)) (items : List α) :
    Exact (.array (items.map write)) := by
  apply Exact.array
  intro item member
  obtain ⟨part, -, rfl⟩ := List.mem_map.mp member
  exact each part

theorem ofOptional {write : α → Json} (each : ∀ value, Exact (write value)) (value? : Option α) :
    Exact (QuestRecord.ofOptional write value?) := by
  cases value? with
  | none => exact .null
  | some value => exact each value

theorem empty : Exact (.object []) := .object fun _ member => absurd member List.not_mem_nil

theorem field {name : String} {value : Json} {members : List (String × Json)}
    (first : Exact value) (rest : Exact (.object members)) :
    Exact (.object ((name, value) :: members)) := by
  cases rest with
  | object others => exact .object (List.forall_mem_cons.mpr ⟨first, others⟩)

end Exact

end Json

theorem WorldPoint.exact_toJson (point : WorldPoint) : Exact point.toJson :=
  .field (.ofCoordinate _) (.field (.ofCoordinate _) (.field (.ofCoordinate _) .empty))

theorem WorldPoint.ofJson?_toJson (point : WorldPoint) : ofJson? point.toJson = some point := by
  have fields : fields? ["x", "y", "plane"] point.toJson = _ :=
    fields?_zip (by decide) [ofInt point.x.toInt, ofInt point.y.toInt, ofInt point.plane.toInt] rfl
  rw [ofJson?, fields]
  simp [int?_ofInt]

theorem ExperienceReward.exact_toJson (reward : ExperienceReward) : Exact reward.toJson :=
  .field (.string _) (.field (.ofLong _) .empty)

theorem ExperienceReward.ofJson?_toJson (reward : ExperienceReward) :
    ofJson? reward.toJson = some reward := by
  have fields : fields? ["skill", "xp"] reward.toJson = _ :=
    fields?_zip (by decide) [.string reward.skill, ofLong reward.xp] rfl
  rw [ofJson?, fields]
  simp [string?, long?_ofLong]

theorem LampReward.exact_toJson (lamp : LampReward) : Exact lamp.toJson :=
  .field (.string _) (.field (.ofLong _) (.field (.ofLong _) .empty))

theorem LampReward.ofJson?_toJson (lamp : LampReward) : ofJson? lamp.toJson = some lamp := by
  have fields : fields? ["skills", "value", "quantity"] lamp.toJson = _ :=
    fields?_zip (by decide) [.string lamp.skills, ofLong lamp.value, ofLong lamp.quantity] rfl
  rw [ofJson?, fields]
  simp [string?, long?_ofLong]

theorem SkillRequirement.exact_toJson (requirement : SkillRequirement) :
    Exact requirement.toJson :=
  .field (.string _) (.field (.ofLong _) .empty)

theorem SkillRequirement.ofJson?_toJson (requirement : SkillRequirement) :
    ofJson? requirement.toJson = some requirement := by
  have fields : fields? ["skillName", "level"] requirement.toJson = _ :=
    fields?_zip (by decide) [.string requirement.skill, ofLong requirement.level] rfl
  rw [ofJson?, fields]
  simp [string?, long?_ofLong]

theorem PanelStep.exact_toJson (step : PanelStep) : Exact step.toJson :=
  .field (.string _) (.field step.point.exact_toJson .empty)

theorem PanelStep.ofJson?_toJson (step : PanelStep) : ofJson? step.toJson = some step := by
  have fields : fields? ["stepDescription", "worldpoint"] step.toJson = _ :=
    fields?_zip (by decide) [.string step.description, step.point.toJson] rfl
  rw [ofJson?, fields]
  simp [string?, WorldPoint.ofJson?_toJson]

theorem Panel.exact_toJson (panel : Panel) : Exact panel.toJson :=
  .field (.string _) (.field (.map PanelStep.exact_toJson _) .empty)

theorem Panel.ofJson?_toJson (panel : Panel) : ofJson? panel.toJson = some panel := by
  have fields : fields? ["panelName", "steps"] panel.toJson = _ :=
    fields?_zip (by decide) [.string panel.name, .array (panel.steps.map PanelStep.toJson)] rfl
  rw [ofJson?, fields]
  simp [string?, list?_map PanelStep.ofJson?_toJson]

namespace QuestRecord

theorem ofJson?_toJson (record : QuestRecord) : ofJson? record.toJson = some record := by
  have fields : fields? fieldNames record.toJson = _ :=
    fields?_zip (by decide) record.fieldValues rfl
  have strings : ∀ value, string? (.string value) = some value := fun _ => rfl
  have lamp := nullable?_ofOptional LampReward.ofJson?_toJson (fun _ => Json.noConfusion)
    record.lampReward
  have required := nullable?_ofOptional long?_ofLong (fun _ => Json.noConfusion)
    record.questPointRequirement
  rw [ofJson?, fields]
  simp [fieldValues, strings, long?_ofLong, lamp, required, list?_map strings,
    list?_map ExperienceReward.ofJson?_toJson, list?_map SkillRequirement.ofJson?_toJson,
    list?_map Panel.ofJson?_toJson]

theorem exact_toJson (record : QuestRecord) : Exact record.toJson :=
  .field (.string _) <| .field (.ofLong _) <| .field (.map ExperienceReward.exact_toJson _) <|
    .field (.ofOptional LampReward.exact_toJson _) <|
    .field (.map SkillRequirement.exact_toJson _) <| .field (.map .string _) <|
    .field (.ofOptional .ofLong _) <| .field (.map .string _) <|
    .field (.map Panel.exact_toJson _) .empty

/-- The text of a record file is read back as the record. -/
theorem parse?_fileText (record : QuestRecord) : parse? record.fileText = some record := by
  rw [parse?, fileText, record.exact_toJson.read?_pretty, Option.bind_some, ofJson?_toJson]

end QuestRecord

end QuestRecords
