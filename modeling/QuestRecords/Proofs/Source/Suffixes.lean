import QuestRecords.Quest.ItemText

namespace QuestRecords

namespace Text

theorem skipBlanks_suffix (text : Text) : skipBlanks text <:+ text := List.dropWhile_suffix isBlank

theorem skipBlanks1?_suffix {text rest : Text} (read : skipBlanks1? text = some rest) :
    rest <:+ text := by
  cases text with
  | nil => cases read
  | cons c tail =>
    obtain ⟨-, same⟩ := Option.ite_none_right_eq_some.mp read
    rw [← Option.some.inj same]
    exact (skipBlanks_suffix tail).trans (List.suffix_cons c tail)

theorem after?_suffix {beginning text rest : Text} (read : after? beginning text = some rest) :
    rest <:+ text :=
  ⟨beginning, (after?_eq_some_iff.mp read).symm⟩

/-- Offsets behind a place are counted from the place on. -/
theorem Site.offsetAt_of_append {site : Site} {header rest : Text}
    (split : site.ahead = header ++ rest) : site.offsetAt rest = site.offset + width header := by
  rw [Site.offsetAt, split, upTo_append]

end Text

namespace Source

open Text Reader

theorem Reader.char?_eq_some_iff {expected : Char} {text rest : Text} :
    char? expected text = some rest ↔ text = expected :: rest := by
  cases text with
  | nil => simp [char?]
  | cons c tail =>
    simp only [char?, Option.ite_none_right_eq_some, Option.some.injEq, List.cons.injEq]

theorem Reader.spacedChar?_suffix {expected : Char} {text rest : Text}
    (read : spacedChar? expected text = some rest) : rest <:+ text := by
  have found := Reader.char?_eq_some_iff.mp read
  apply List.IsSuffix.trans _ (skipBlanks_suffix text)
  rw [found]
  exact List.suffix_cons expected rest

theorem Reader.name?_suffix {text name rest : Text} (read : name? text = some (name, rest)) :
    rest <:+ text := by
  cases text with
  | nil => cases read
  | cons c tail =>
    obtain ⟨-, same⟩ := Option.ite_none_right_eq_some.mp read
    cases same
    exact (List.dropWhile_suffix isWord).trans (List.suffix_cons c tail)

theorem assigned?_suffix {site : Site} {name rest : Text}
    (read : assigned? site = some (name, rest)) : rest <:+ site.ahead := by
  unfold assigned? at read
  by_cases starts : startsWord site = true
  · simp only [starts, Bool.not_true, Bool.false_eq_true, if_false] at read
    obtain ⟨⟨found, afterName⟩, named, read⟩ := Option.bind_eq_some_iff.mp read
    obtain ⟨afterEquals, equals, same⟩ := Option.bind_eq_some_iff.mp read
    cases same
    exact (skipBlanks_suffix afterEquals).trans
      ((spacedChar?_suffix equals).trans (name?_suffix named))
  · simp [starts] at read

theorem newOfAny?_suffix {typeNames : List String} {text paren : Text}
    (read : newOfAny? typeNames text = some paren) : paren <:+ text := by
  obtain ⟨afterNew, new, read⟩ := Option.bind_eq_some_iff.mp read
  obtain ⟨typeName, blanks, read⟩ := Option.bind_eq_some_iff.mp read
  obtain ⟨name, -, read⟩ := List.exists_of_findSome?_eq_some read
  obtain ⟨rest, named, read⟩ := Option.bind_eq_some_iff.mp read
  split at read
  · rename_i args opened
    cases read
    rw [← opened]
    exact (skipBlanks_suffix rest).trans ((after?_suffix named).trans
      ((skipBlanks1?_suffix blanks).trans (after?_suffix new)))
  · cases read

theorem assignment?_suffix {typeName : String} {site : Site} {name paren : Text}
    (read : assignment? typeName site = some (name, paren)) : paren <:+ site.ahead := by
  obtain ⟨⟨found, rest⟩, assigned, read⟩ := Option.bind_eq_some_iff.mp read
  obtain ⟨inner, new, same⟩ := Option.bind_eq_some_iff.mp read
  cases same
  exact (newOfAny?_suffix new).trans (assigned?_suffix assigned)

theorem methodCall?_suffix {method : String} {site : Site} {paren : Text}
    (read : methodCall? method site = some paren) : paren <:+ site.ahead := by
  unfold methodCall? at read
  by_cases starts : startsWord site = true
  · simp only [starts, Bool.not_true, Bool.false_eq_true, if_false] at read
    obtain ⟨⟨found, afterName⟩, named, read⟩ := Option.bind_eq_some_iff.mp read
    obtain ⟨afterDot, dot, read⟩ := Option.bind_eq_some_iff.mp read
    obtain ⟨afterMethod, called, read⟩ := Option.bind_eq_some_iff.mp read
    split at read
    · rename_i args opened
      cases read
      rw [← opened]
      exact (skipBlanks_suffix afterMethod).trans ((after?_suffix called).trans
        ((skipBlanks_suffix afterDot).trans
          ((spacedChar?_suffix dot).trans (name?_suffix named))))
    · cases read
  · simp [starts] at read

end Source

theorem ItemTexts.directAt?_suffix {site : Text.Site} {name literal : Text}
    (read : ItemTexts.directAt? site = some (name, literal)) : literal <:+ site.ahead := by
  obtain ⟨⟨found, rest⟩, assigned, read⟩ := Option.bind_eq_some_iff.mp read
  obtain ⟨paren, new, read⟩ := Option.bind_eq_some_iff.mp read
  have opened := (Source.newOfAny?_suffix new).trans (Source.assigned?_suffix assigned)
  split at read
  · rename_i args
    split at read
    · rename_i body quoted
      cases read
      rw [← quoted]
      exact (Text.skipBlanks_suffix args).trans ((List.suffix_cons '(' args).trans opened)
    · cases read
  · cases read

end QuestRecords
