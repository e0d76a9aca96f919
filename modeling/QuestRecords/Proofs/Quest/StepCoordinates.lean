import QuestRecords.Proofs.Quest.FirstBindings
import QuestRecords.Proofs.Source.SignedDigits

/-! The coordinates of steps. Each of the three arguments of a place is a whole number that fits 32
bits, and the place has exactly these numbers; otherwise the step is not read. -/
namespace QuestRecords.Step

open Source Text

/-- A token that stands for a number of 32 bits, and the coordinate that is this number. -/
def IsStored (token : Text) (coordinate : Int32) : Prop :=
  ∃ value : Int, SignedDigits (bareToken token) value ∧ -2 ^ 31 ≤ value ∧ value < 2 ^ 31 ∧
    coordinate.toInt = value

/-- A call of which the first place that is constructed in it has the coordinates of a point. -/
inductive Located (call : Text) : WorldPoint → Prop where
  | place {place : Call} {first second third : Text} {x y plane : Int32}
      (found : (constructorCalls call "WorldPoint".toList).head? = some place)
      (arguments : place.arguments = [first, second, third])
      (isX : IsStored first x) (isY : IsStored second y) (isPlane : IsStored third plane) :
      Located call ⟨x, y, plane⟩

/-- The call of an assignment in a source, under the name that is assigned to: from the name to the
parenthesis that closes the call. -/
inductive CallOf (source : Text) : String → Text → Prop where
  | assigned {kind : String} {before name header args call : Text} {close : Nat}
      {pieces : List Piece} (known : kind ∈ kinds)
      (assigns : Assigns kind.toList source before name header args)
      (closed : ClosedBy source (width (before ++ (name ++ header))) close pieces)
      (whole : source.slice? (width before) (close + 1) = some call) :
      CallOf source (String.ofList name) call

theorem isCoordinate_iff {token : Text} {coordinate : Int32} :
    IsCoordinate token coordinate ↔ IsStored token coordinate := by
  have low : -2 ^ 31 ≤ coordinate.toInt := coordinate.le_toInt
  have high : coordinate.toInt < 2 ^ 31 := coordinate.toInt_lt
  constructor
  · intro read
    exact ⟨_, (integer?_value_iff.mp read).1, low, high, rfl⟩
  · rintro ⟨_, signed, -, -, rfl⟩
    exact integer?_value_iff.mpr ⟨signed, by omega, by omega⟩

theorem point?_eq_some_iff_stored {arguments : List Text} {point : WorldPoint} :
    point? arguments = some point ↔ ∃ first second third, arguments = [first, second, third] ∧
      IsStored first point.x ∧ IsStored second point.y ∧ IsStored third point.plane := by
  obtain ⟨x, y, plane⟩ := point
  simp only [point?_eq_some_iff, isCoordinate_iff]

theorem located_of_shows {call shown : Text} {point : WorldPoint} (shows : Shows call point shown) :
    Located call point := by
  obtain ⟨found, arguments, isX, isY, isPlane, -⟩ := shows
  exact .place found arguments (isCoordinate_iff.mp isX) (isCoordinate_iff.mp isY)
    (isCoordinate_iff.mp isPlane)

theorem located_of_readable {kind : String} {source : Text} {start : Nat} {step : Step}
    (known : kind ∈ kinds) (readable : Readable kind source start step) :
    ∃ call, CallOf source step.name call ∧ Located call step.point := by
  obtain ⟨assigns, closed, whole, shows⟩ := readable
  exact ⟨_, .assigned known assigns closed whole, located_of_shows shows⟩

/-- Every step of a source has the coordinates of a place in a call that assigns it. -/
theorem located_of_mem_extract {source : Text} {step : Step}
    (member : step ∈ (extract source).value.toList) :
    ∃ call, CallOf source step.name call ∧ Located call step.point := by
  obtain ⟨npc, object, steps, -, -, memNpc, memObject⟩ := toList_extract source
  rw [steps] at member
  obtain ⟨⟨start, step⟩, listed, rfl⟩ := List.mem_map.mp member
  rcases List.mem_append.mp listed with npc | object
  · exact located_of_readable (by decide) ((memNpc start step).mp npc).leftmost.readable
  · exact located_of_readable (by decide) ((memObject start step).mp object).leftmost.readable

/-- A token is read exactly when it stands for a number that fits 64 bits, and as that number;
underscores put into it, and blanks around it, change nothing. A place is read from three tokens
exactly when each stands for a number that fits 32 bits, and these are its coordinates; so it is for
every call of a step that is read, and for every step of a source. -/
theorem integers_stored_exactly :
    (∀ token value, (∃ number, integer? token = some number ∧ number.toInt = value) ↔
      SignedDigits (bareToken token) value ∧ -2 ^ 63 ≤ value ∧ value < 2 ^ 63) ∧
    (∀ token marked padded, Underscored (trim token) marked → Padded marked padded →
      integer? padded = integer? token) ∧
    (∀ arguments point, point? arguments = some point ↔ ∃ first second third,
      arguments = [first, second, third] ∧ IsStored first point.x ∧ IsStored second point.y ∧
        IsStored third point.plane) ∧
    (∀ call point shown, content? call = some (point, shown) → Located call point) ∧
    ∀ source step, step ∈ (extract source).value.toList →
      ∃ call, CallOf source step.name call ∧ Located call step.point := by
  refine ⟨fun _ _ => integer?_value_iff, fun _ _ _ => integer?_underscored,
    fun _ _ => point?_eq_some_iff_stored, fun call point shown read => ?_, fun _ _ =>
      located_of_mem_extract⟩
  exact located_of_shows (content?_eq_some_iff.mp read)

/-- A step whose place has a sign, an underscore and a leading zero. -/
def markedStep : Text :=
  "a = new NpcStep(this, ".toList ++ "new WorldPoint(-1_024, +9_600, ".toList ++
    "01), \"Dig.\");".toList

theorem integers_stored_exactly_marked :
    integer? " -1_024 ".toList = integer? "-1024".toList ∧
    (SignedDigits (bareToken "-1024".toList) (-1024) ∧ -2 ^ 63 ≤ (-1024 : Int) ∧
      (-1024 : Int) < 2 ^ 63) ∧
    Located markedStep ⟨-1024, 9600, 1⟩ ∧
    ∃ call, CallOf markedStep "a" call ∧ Located call ⟨-1024, 9600, 1⟩ := by
  obtain ⟨exactly, unmarked, -, located, stored⟩ := integers_stored_exactly
  have marks : Underscored (trim "-1024".toList) "-1_024".toList :=
    .kept (.kept (.mark (.kept (.kept (.kept .nil)))))
  have blank : ∀ c ∈ [' '], isBlank c = true := List.forall_mem_singleton.mpr (by decide)
  have around : Padded "-1_024".toList " -1_024 ".toList := ⟨[' '], [' '], blank, blank, rfl⟩
  have read : content? markedStep = some (⟨-1024, 9600, 1⟩, "Dig.".toList) := by
    decide +kernel
  have member : ⟨"a", "Dig.", ⟨-1024, 9600, 1⟩⟩ ∈ (extract markedStep).value.toList := by
    decide +kernel
  exact ⟨unmarked _ _ _ marks around, (exactly _ _).mp ⟨-1024, by decide, rfl⟩,
    located _ _ _ read, stored _ _ member⟩

end QuestRecords.Step
