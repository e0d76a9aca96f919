/-! Times of the calendar, in universal time, from the milliseconds that have passed since the
beginning of 1970. -/
namespace QuestRecords.Calendar

/-- A day of the calendar. -/
structure Day where
  year : Nat
  month : Nat
  day : Nat
  deriving DecidableEq

/-- The day that comes so many days after the first of January 1970. Years are counted from March
on, so that a leap day is the last day of its year, and in eras of four hundred years. -/
def dayOf (days : Nat) : Day :=
  let shifted := days + 719468
  let era := shifted / 146097
  let ofEra := shifted % 146097
  let yearOfEra := (ofEra - ofEra / 1460 + ofEra / 36524 - ofEra / 146096) / 365
  let ofYear := ofEra - (365 * yearOfEra + yearOfEra / 4 - yearOfEra / 100)
  let fromMarch := (5 * ofYear + 2) / 153
  let month := if fromMarch < 10 then fromMarch + 3 else fromMarch - 9
  { year := yearOfEra + 400 * era + (if month ≤ 2 then 1 else 0)
    month
    day := ofYear - (153 * fromMarch + 2) / 5 + 1 }

/-- A number with zeros in front, up to a width. -/
def padded (width number : Nat) : String :=
  let digits := toString number
  String.ofList (List.replicate (width - digits.length) '0') ++ digits

def date (days : Nat) : String :=
  let day := dayOf days
  padded 4 day.year ++ "-" ++ padded 2 day.month ++ "-" ++ padded 2 day.day

def clock (seconds : Nat) : String :=
  padded 2 (seconds / 3600) ++ ":" ++ padded 2 (seconds / 60 % 60) ++ ":" ++ padded 2 (seconds % 60)

/-- A time to the second, as in `1970-01-01T00:00:00Z`. -/
def toSecond (milliseconds : Nat) : String :=
  let seconds := milliseconds / 1000
  date (seconds / 86400) ++ "T" ++ clock (seconds % 86400) ++ "Z"

/-- A time to the millisecond, as in `1970-01-01T00:00:00.000Z`. -/
def toMillisecond (milliseconds : Nat) : String :=
  let seconds := milliseconds / 1000
  date (seconds / 86400) ++ "T" ++ clock (seconds % 86400) ++ "." ++
    padded 3 (milliseconds % 1000) ++ "Z"

/-- A span in seconds with two places. -/
def seconds (milliseconds : Nat) : String :=
  let hundredths := (milliseconds + 5) / 10
  toString (hundredths / 100) ++ "." ++ padded 2 (hundredths % 100)

end QuestRecords.Calendar
