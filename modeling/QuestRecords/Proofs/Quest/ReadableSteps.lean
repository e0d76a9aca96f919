import Mathlib.Data.List.Forall2
import QuestRecords.Proofs.Source.AssignedObjects
import QuestRecords.Proofs.Source.FoundCalls
import QuestRecords.Proofs.Quest.StepStatements

namespace QuestRecords

open Source Text

theorem mapM_eq_some_iff {α β : Type} {read : α → Option β} {values : List α} {results : List β} :
    values.mapM read = some results ↔
      List.Forall₂ (fun value result => read value = some result) values results := by
  induction values generalizing results with
  | nil => simp [eq_comm]
  | cons value values ih =>
    rw [List.mapM_cons, List.forall₂_cons_left_iff]
    simp only [Option.bind_eq_bind, Option.bind_eq_some_iff, ih]
    constructor
    · rintro ⟨result, first, others, later, same⟩
      exact ⟨result, others, first, later, (Option.some.inj same).symm⟩
    · rintro ⟨result, others, first, later, rfl⟩
      exact ⟨result, first, others, later, rfl⟩

namespace Step

/-- An argument that is a whole number of 32 bits. -/
def IsCoordinate (argument : Text) (value : Int32) : Prop :=
  ∃ number, integer? argument = some number ∧ number.toInt = value.toInt

/-- What the call of a step shows: the first place that is constructed in it, and the text of the
literal that begins at the first quote behind that place. -/
inductive Shows (call : Text) : WorldPoint → Text → Prop where
  | shown {place : Call} {first second third : Text} {x y plane : Int32}
      {before between raw rest shown : Text}
      (found : (constructorCalls call "WorldPoint".toList).head? = some place)
      (arguments : place.arguments = [first, second, third])
      (isX : IsCoordinate first x) (isY : IsCoordinate second y) (isPlane : IsCoordinate third plane)
      (split : call = before ++ between ++ raw ++ rest) (behind : width before = place.stop)
      (noQuote : '"' ∉ between) (chain : Literal.Chain raw shown)
      (ended : ¬ Literal.Continues rest) : Shows call ⟨x, y, plane⟩ shown

/-- The steps of a kind that are assigned in a source and can be read, each with the offset at which
its assignment begins. -/
inductive Readable (kind : String) (source : Text) : Nat → Step → Prop where
  | assigned {before name header args call shown : Text} {close : Nat} {pieces : List Piece}
      {point : WorldPoint} (assigns : Assigns kind.toList source before name header args)
      (closed : ClosedBy source (width (before ++ (name ++ header))) close pieces)
      (whole : source.slice? (width before) (close + 1) = some call)
      (shows : Shows call point shown) :
      Readable kind source (width before) ⟨String.ofList name, String.ofList shown, point⟩

theorem coordinate_eq_some_iff {argument : Text} {value : Int32} :
    ((integer? argument).bind fun number => Amount.int? number.toInt) = some value ↔
      IsCoordinate argument value := by
  rw [Option.bind_eq_some_iff]
  constructor
  · rintro ⟨number, read, fits⟩
    exact ⟨number, read, (Amount.toInt_of_int? fits).symm⟩
  · rintro ⟨number, read, same⟩
    exact ⟨number, read, by rw [same, Amount.int?_toInt]⟩

theorem point?_eq_some_iff {arguments : List Text} {x y plane : Int32} :
    point? arguments = some ⟨x, y, plane⟩ ↔ ∃ first second third,
      arguments = [first, second, third] ∧ IsCoordinate first x ∧ IsCoordinate second y ∧
        IsCoordinate third plane := by
  have each : arguments.mapM (fun argument => (integer? argument).bind fun number =>
      Amount.int? number.toInt) = some [x, y, plane] ↔
        List.Forall₂ IsCoordinate arguments [x, y, plane] := by
    simp only [mapM_eq_some_iff, coordinate_eq_some_iff]
  have coordinates : point? arguments = some ⟨x, y, plane⟩ ↔
      List.Forall₂ IsCoordinate arguments [x, y, plane] := by
    rw [← each]
    constructor
    · intro read
      obtain ⟨coordinates, read, same⟩ := Option.bind_eq_some_iff.mp read
      split at same
      · cases same
        exact read
      · cases same
    · intro read
      rw [point?, read]
      rfl
  rw [coordinates]
  constructor
  · intro all
    cases all with
    | cons isX all =>
      cases all with
      | cons isY all =>
        cases all with
        | cons isPlane all =>
          cases all
          exact ⟨_, _, _, rfl, isX, isY, isPlane⟩
  · rintro ⟨first, second, third, rfl, isX, isY, isPlane⟩
    exact .cons isX (.cons isY (.cons isPlane .nil))

theorem content?_eq_some_iff {call shown : Text} {point : WorldPoint} :
    content? call = some (point, shown) ↔ Shows call point shown := by
  constructor
  · intro read
    obtain ⟨place, found, read⟩ := Option.bind_eq_some_iff.mp read
    obtain ⟨⟨x, y, plane⟩, located, read⟩ := Option.bind_eq_some_iff.mp read
    obtain ⟨⟨before, behind⟩, split, read⟩ := Option.bind_eq_some_iff.mp read
    obtain ⟨⟨text, rest⟩, literal, same⟩ := Option.bind_eq_some_iff.mp read
    cases same
    obtain ⟨first, second, third, arguments, isX, isY, isPlane⟩ := point?_eq_some_iff.mp located
    obtain ⟨rfl, place⟩ := splitAt?_eq_some_iff.mp split
    obtain ⟨raw, chain, whole, ended⟩ := Literal.chain?_eq_some_iff.mp literal
    rw [← Offsets.head?_constructorCalls] at found
    have parted : before ++ behind = before ++ behind.takeWhile (· != '"') ++ raw ++ rest := by
      rw [List.append_assoc, ← whole, List.append_assoc, List.takeWhile_append_dropWhile]
    have noQuote : '"' ∉ behind.takeWhile (· != '"') := by
      intro quote
      simpa using passes_takeWhile (· != '"') behind '"' quote
    exact .shown found arguments isX isY isPlane parted place noQuote chain ended
  · rintro ⟨found, arguments, isX, isY, isPlane, split, place, noQuote, chain, ended⟩
    rename_i constructed first second third x y plane before between raw rest
    have located : point? constructed.arguments = some ⟨x, y, plane⟩ :=
      point?_eq_some_iff.mpr ⟨first, second, third, arguments, isX, isY, isPlane⟩
    have behind : call.splitAt? constructed.stop = some (before, between ++ (raw ++ rest)) :=
      splitAt?_eq_some_iff.mpr ⟨by rw [split, List.append_assoc, List.append_assoc], place⟩
    have quote : (between ++ (raw ++ rest)).dropWhile (· != '"') = raw ++ rest := by
      obtain ⟨body, rfl⟩ := chain.quote_first
      apply dropWhile_append _ rfl
      intro c member
      simpa using ne_of_mem_of_not_mem member noQuote
    have literal : Literal.chain? (raw ++ rest) = some (shown, rest) :=
      Literal.chain?_eq_some_iff.mpr ⟨raw, chain, rfl, ended⟩
    rw [Offsets.head?_constructorCalls] at found
    simp only [content?, found, located, behind, quote, literal, Option.bind_eq_bind,
      Option.bind_some, Option.pure_def]

theorem solid_of_mem_kinds {kind : String} (known : kind ∈ kinds) :
    ∃ c, kind.toList.head? = some c ∧ isBlank c = false := by
  simp only [kinds, List.mem_cons, List.not_mem_nil, or_false] at known
  rcases known with rfl | rfl
  · exact ⟨'N', rfl, by decide⟩
  · exact ⟨'O', rfl, by decide⟩

/-- A step is read at a place exactly when an assignment of one begins there that can be read. -/
theorem assignedAt?_eq_some_iff {kind : String} (known : kind ∈ kinds) {before ahead : Text}
    {step : Step} : assignedAt? kind ⟨before.reverse, ahead⟩ = some step ↔
      Readable kind (before ++ ahead) (width before) step := by
  have solid := solid_of_mem_kinds known
  have site : Site.text ⟨before.reverse, ahead⟩ = before ++ ahead := by
    rw [Site.text, List.reverse_reverse]
  have offset : Site.offset ⟨before.reverse, ahead⟩ = width before := width_reverse before
  constructor
  · intro read
    obtain ⟨⟨named, call⟩, found, shows⟩ := Option.bind_eq_some_iff.mp read
    obtain ⟨⟨name, paren⟩, assigned, found⟩ := Option.bind_eq_some_iff.mp found
    obtain ⟨call, called, same⟩ := Option.bind_eq_some_iff.mp found
    cases same
    obtain ⟨⟨point, shown⟩, content, rfl⟩ := Option.map_eq_some_iff.mp shows
    obtain ⟨header, args, rfl, assigns⟩ := (assignment?_eq_some_iff solid).mp assigned
    obtain ⟨close, pieces, closed, whole⟩ :=
      (exists_ofParen?_iff assigns.ahead_eq).mp ⟨call, called, rfl⟩
    rw [site, offset, ← width_append] at closed
    rw [site, offset] at whole
    exact .assigned assigns closed whole (content?_eq_some_iff.mp content)
  · intro readable
    generalize start : width before = place at readable
    cases readable with
    | @assigned front name header args call shown close pieces point assigns closed whole shows =>
      -- Both beginnings of the source have the same width.
      obtain ⟨rfl, -⟩ : before = front ∧ ahead = name ++ header ++ '(' :: args :=
        append_inj_of_width (by rw [assigns.stands, List.append_assoc]) start
      rw [width_append, ← offset, ← site] at closed
      rw [← offset, ← site] at whole
      obtain ⟨found, called, rfl⟩ := (exists_ofParen?_iff assigns.ahead_eq).mpr
        ⟨close, pieces, closed, whole⟩
      have assigned := (assignment?_eq_some_iff solid).mpr ⟨header, args, rfl, assigns⟩
      have content := content?_eq_some_iff.mpr shows
      simp only [assignedAt?, at?, assigned, called, readable?, content, Option.bind_eq_bind,
        Option.bind_some, Option.pure_def, Option.map_some]

def readings (kind : String) (source : Text) : List (Nat × Step) :=
  (sites source).filterMap fun site => (assignedAt? kind site).map (site.offset, ·)

theorem findAll_eq_readings (kind : String) (source : Text) :
    findAll (assignedAt? kind) source = (readings kind source).map (·.2) := by
  rw [findAll, readings, List.map_filterMap]
  apply List.filterMap_congr
  intro site _
  rw [Option.map_map]
  exact Option.map_id'.symm

theorem mem_readings {kind : String} (known : kind ∈ kinds) {source : Text} {start : Nat}
    {step : Step} : (start, step) ∈ readings kind source ↔ Readable kind source start step := by
  rw [readings, List.mem_filterMap]
  constructor
  · rintro ⟨⟨behind, ahead⟩, place, read⟩
    obtain ⟨step, assigned, same⟩ := Option.map_eq_some_iff.mp read
    cases same
    obtain ⟨before, rfl⟩ : ∃ before : Text, behind = before.reverse :=
      ⟨behind.reverse, behind.reverse_reverse.symm⟩
    have readable := (assignedAt?_eq_some_iff known).mp assigned
    have whole : before.reverse.reverse ++ ahead = source := Offsets.text_of_mem_sites place
    rw [List.reverse_reverse] at whole
    rw [Site.offset, width_reverse, ← whole]
    exact readable
  · intro readable
    obtain ⟨before, ahead, rfl, rfl, filled⟩ : ∃ before ahead : Text, source = before ++ ahead ∧
        start = width before ∧ ahead ≠ [] := by
      obtain ⟨assigns, -, -, -⟩ := readable
      exact ⟨_, _, by rw [assigns.stands, List.append_assoc], rfl, by simp⟩
    refine ⟨⟨before.reverse, ahead⟩, (mem_sites_iff _ _).mpr ⟨?_, filled⟩, ?_⟩
    · rw [Site.text, List.reverse_reverse]
    · rw [(assignedAt?_eq_some_iff known).mpr readable, Option.map_some, Site.offset, width_reverse]

theorem pairwise_readings (kind : String) (source : Text) :
    (readings kind source).Pairwise fun earlier later => earlier.1 < later.1 := by
  refine pairwise_filterMap_sitesFrom (fun site found read => ?_) [] source
  obtain ⟨step, -, rfl⟩ := Option.map_eq_some_iff.mp read
  rfl

end Step
end QuestRecords
