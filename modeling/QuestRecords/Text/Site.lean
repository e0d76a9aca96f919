import QuestRecords.Text.Basic

/-! Places in a text. A search looks at every place from left to right and asks a reader what
stands there, so the results of a search come in the order of the text. -/
namespace QuestRecords.Text

/-- A place before a character: what stands behind it, nearest character first, and what lies
ahead of it. -/
structure Site where
  behind : Text
  ahead : Text

/-- The byte offset of the place. -/
def Site.offset (site : Site) : Nat := width site.behind

/-- The whole text that the place is in. -/
def Site.text (site : Site) : Text := site.behind.reverse ++ site.ahead

/-- The byte offset of what is left unread when reading from this place. -/
def Site.offsetAt (site : Site) (rest : Text) : Nat := site.offset + width (upTo site.ahead rest)

def sitesFrom (behind : Text) : Text → List Site
  | [] => []
  | c :: ahead => ⟨behind, c :: ahead⟩ :: sitesFrom (c :: behind) ahead

/-- Every place of a text, from left to right; the end of the text is no place. -/
def sites (text : Text) : List Site := sitesFrom [] text

/-- Reads at every place; what is read at one place may overlap what is read at another. -/
def findAll (read : Site → Option α) (text : Text) : List α := (sites text).filterMap read

/-- The first place, from the left, at which there is something to read. -/
def findFirst? (read : Site → Option α) (text : Text) : Option α := (sites text).findSome? read

/-- Reads from left to right and goes on behind what was read. A reader returns its result and
what it left unread; the next `skip` characters belong to an earlier result. -/
def findDisjointFrom (read : Site → Option (α × Text)) (behind : Text) (skip : Nat) :
    Text → List α
  | [] => []
  | c :: ahead =>
    match skip with
    | skip + 1 => findDisjointFrom read (c :: behind) skip ahead
    | 0 =>
      match read ⟨behind, c :: ahead⟩ with
      | some (found, rest) =>
        found :: findDisjointFrom read (c :: behind) (ahead.length - rest.length) ahead
      | none => findDisjointFrom read (c :: behind) 0 ahead

/-- The results of a reader from left to right, no two of which overlap. -/
def findDisjoint (read : Site → Option (α × Text)) (text : Text) : List α :=
  findDisjointFrom read [] 0 text

theorem text_of_mem_sitesFrom {site : Site} {behind text : Text}
    (member : site ∈ sitesFrom behind text) : site.text = behind.reverse ++ text := by
  induction text generalizing behind with
  | nil => simp [sitesFrom] at member
  | cons c ahead ih =>
    rcases List.mem_cons.mp member with rfl | later
    · rfl
    · simpa using ih later

theorem mem_sites_iff (site : Site) (text : Text) :
    site ∈ sites text ↔ site.text = text ∧ site.ahead ≠ [] := by
  constructor
  · intro member
    refine ⟨by simpa using text_of_mem_sitesFrom member, ?_⟩
    suffices ∀ behind, site ∈ sitesFrom behind text → site.ahead ≠ [] from this [] member
    clear member
    induction text with
    | nil => simp [sitesFrom]
    | cons c ahead ih =>
      intro behind member
      rcases List.mem_cons.mp member with rfl | later
      · simp
      · exact ih _ later
  · rintro ⟨rfl, more⟩
    suffices ∀ before behind ahead, ahead ≠ [] →
        (⟨before.reverse ++ behind, ahead⟩ : Site) ∈ sitesFrom behind (before ++ ahead) by
      simpa [Site.text, sites] using this site.behind.reverse [] site.ahead more
    intro before
    induction before with
    | nil =>
      intro behind ahead more
      cases ahead with
      | nil => contradiction
      | cons c ahead => simp [sitesFrom]
    | cons c before ih =>
      intro behind ahead more
      have found := ih (c :: behind) ahead more
      simp only [List.cons_append, sitesFrom, List.mem_cons]
      right
      simpa using found

end QuestRecords.Text
