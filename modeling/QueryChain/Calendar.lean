/-
# Dates, times of day and instants

A date is a day number, so that arithmetic on dates is arithmetic on integers; year, month and
day are a way to write it.  A time of day is a second and a fraction in nanoseconds; a fraction
of a whole second or more lies inside a leap second.
-/

namespace QueryChain

/-! ## Dates -/

/-- A day of the proleptic Gregorian calendar, counted from 1970-01-01. -/
structure Date where
  day : Int
  deriving DecidableEq, Repr

/-- Every fourth year is a leap year, but of the full centuries only every fourth. -/
def isLeapYear (year : Int) : Bool :=
  year % 4 == 0 && (year % 100 != 0 || year % 400 == 0)

/-- The number of days of a month, zero if there is no such month. -/
def daysInMonth (year : Int) : Nat → Nat
  | 2 => if isLeapYear year then 29 else 28
  | 4 | 6 | 9 | 11 => 30
  | 1 | 3 | 5 | 7 | 8 | 10 | 12 => 31
  | _ => 0

namespace Date

/-- Days from 1970-01-01.  Years are counted from March, so that the leap day comes last, and
grouped in eras of 400 years, which all have the same length. -/
def ofCivil (year : Int) (month day : Nat) : Date :=
  let shifted := if month ≤ 2 then year - 1 else year
  let era := shifted / 400
  let yearOfEra := shifted - era * 400
  let monthFromMarch : Int := (month + 9) % 12
  let dayOfYear := (153 * monthFromMarch + 2) / 5 + day - 1
  let dayOfEra := yearOfEra * 365 + yearOfEra / 4 - yearOfEra / 100 + dayOfYear
  ⟨era * 146097 + dayOfEra - 719468⟩

/-- A date, if the month and the day exist. -/
def ofCivil? (year : Int) (month day : Nat) : Option Date :=
  if 1 ≤ day ∧ day ≤ daysInMonth year month then some (ofCivil year month day) else none

/-- Year, month and day. -/
def civil (d : Date) : Int × Nat × Nat :=
  let shifted := d.day + 719468
  let era := shifted / 146097
  let dayOfEra := shifted - era * 146097
  let yearOfEra := (dayOfEra - dayOfEra / 1460 + dayOfEra / 36524 - dayOfEra / 146096) / 365
  let dayOfYear := dayOfEra - (365 * yearOfEra + yearOfEra / 4 - yearOfEra / 100)
  let monthFromMarch := (5 * dayOfYear + 2) / 153
  let day := dayOfYear - (153 * monthFromMarch + 2) / 5 + 1
  let month := if monthFromMarch < 10 then monthFromMarch + 3 else monthFromMarch - 9
  let year := yearOfEra + era * 400 + if month ≤ 2 then 1 else 0
  (year, month.toNat, day.toNat)

end Date

/-! ## Times of day -/

/-- A second of the day and nanoseconds; `10 ^ 9` nanoseconds and more lie in a leap second. -/
structure Clock where
  second : Nat
  nanos : Nat
  deriving DecidableEq, Repr

/-- A time of day from its parts; a sixtieth second is a leap second. -/
def Clock.ofParts? (hour minute second nanos : Nat) : Option Clock :=
  if hour < 24 ∧ minute < 60 ∧ second ≤ 60 ∧ nanos < 1000000000 then
    if second = 60 then some ⟨hour * 3600 + minute * 60 + 59, nanos + 1000000000⟩
    else some ⟨hour * 3600 + minute * 60 + second, nanos⟩
  else none

/-- A date with a time of day. -/
structure DateTime where
  date : Date
  clock : Clock
  deriving DecidableEq, Repr

/-- The date and time that many seconds later. -/
def DateTime.shift (t : DateTime) (seconds : Int) : DateTime :=
  let total := t.date.day * 86400 + t.clock.second + seconds
  ⟨⟨total / 86400⟩, ⟨(total % 86400).toNat, t.clock.nanos⟩⟩

/-- The same moment with a leap second counted as the second that follows it. -/
def DateTime.withoutLeap (t : DateTime) : DateTime :=
  if t.clock.nanos < 1000000000 then t
  else { t.shift 1 with clock := ⟨(t.shift 1).clock.second, t.clock.nanos - 1000000000⟩ }

/-- An instant with the offset, in seconds east, of the clock that showed it. -/
structure ZonedTime where
  unixNanos : Int
  offset : Int
  deriving DecidableEq, Repr

/-! ## Writing -/

/-- At least `width` digits, with zeros in front. -/
def padded (width n : Nat) : String :=
  let digits := toString n
  String.ofList (List.replicate (width - digits.length) '0') ++ digits

/-- Four digits for the years 0 to 9999; a sign and at least four digits for all others. -/
def yearText (year : Int) : String :=
  if 0 ≤ year ∧ year ≤ 9999 then padded 4 year.toNat
  else (if year < 0 then "-" else "+") ++ padded 4 year.natAbs

/-- Year, month and day, joined by hyphens. -/
def Date.text (d : Date) : String :=
  let (year, month, day) := d.civil
  yearText year ++ "-" ++ padded 2 month ++ "-" ++ padded 2 day

/-- Hour, minute, second and nine digits of the second's fraction. -/
def Clock.text (c : Clock) : String :=
  let leap := if c.nanos < 1000000000 then 0 else 1
  padded 2 (c.second / 3600) ++ ":" ++ padded 2 (c.second / 60 % 60) ++ ":"
    ++ padded 2 (c.second % 60 + leap) ++ "." ++ padded 9 (c.nanos - leap * 1000000000)

/-- Date and time of day, with a `T` between. -/
def DateTime.text (t : DateTime) : String :=
  t.date.text ++ "T" ++ t.clock.text

/-! ## Reading

Each reader takes the text from its start and returns what it read with the rest. -/

/-- The value of the first `count` characters, which have to be digits. -/
def readDigits? : (count : Nat) → List Char → (value : Nat) → Option (Nat × List Char)
  | 0, cs, value => some (value, cs)
  | _ + 1, [], _ => none
  | count + 1, c :: rest, value =>
      if '0' ≤ c ∧ c ≤ '9' then
        readDigits? count rest (value * 10 + (c.toNat - '0'.toNat))
      else none

/-- The rest behind a character that has to come first. -/
def expectChar? (expected : Char) : List Char → Option (List Char)
  | c :: rest => if c = expected then some rest else none
  | [] => none

/-- A year of four digits, or of any number of digits if it is signed. -/
def readYear? : List Char → Option (Int × List Char)
  | [] => none
  | c :: rest =>
      if c = '+' ∨ c = '-' then do
        let count := max 1 (rest.takeWhile Char.isDigit).length
        let (year, rest) ← readDigits? count rest 0
        return (if c = '-' then -year else year, rest)
      else (readDigits? 4 (c :: rest) 0).map fun (year, rest) => (Int.ofNat year, rest)

/-- The first and the last year that are counted with. -/
def yearBounds : Int × Int := (-262143, 262142)

/-- A date in the form `YYYY-MM-DD`. -/
def readDate? (cs : List Char) : Option (Date × List Char) := do
  let (year, cs) ← readYear? cs
  unless yearBounds.1 ≤ year ∧ year ≤ yearBounds.2 do none
  let cs ← expectChar? '-' cs
  let (month, cs) ← readDigits? 2 cs 0
  let cs ← expectChar? '-' cs
  let (day, cs) ← readDigits? 2 cs 0
  let date ← Date.ofCivil? year month day
  return (date, cs)

/-- The fraction of a second in nanoseconds, with digits behind the ninth ignored; no point
means no fraction. -/
def readFraction? : List Char → Option (Nat × List Char)
  | '.' :: rest =>
      let digits := rest.takeWhile Char.isDigit
      let (value, _) := (readDigits? (min digits.length 9) digits 0).getD (0, [])
      if digits.isEmpty then none
      else some (value * Nat.pow 10 (9 - digits.length), rest.dropWhile Char.isDigit)
  | cs => some (0, cs)

/-- A time of day in the form `HH:MM:SS`, with an optional fraction. -/
def readClock? (cs : List Char) : Option (Clock × List Char) := do
  let (hour, cs) ← readDigits? 2 cs 0
  let cs ← expectChar? ':' cs
  let (minute, cs) ← readDigits? 2 cs 0
  let cs ← expectChar? ':' cs
  let (second, cs) ← readDigits? 2 cs 0
  let (nanos, cs) ← readFraction? cs
  let clock ← Clock.ofParts? hour minute second nanos
  return (clock, cs)

/-- An offset from universal time in seconds: `Z`, or a sign with hours and minutes. -/
def readOffset? : List Char → Option (Int × List Char)
  | [] => none
  | c :: rest =>
      if c = 'Z' ∨ c = 'z' then some (0, rest)
      else do
        let sign : Int ← if c = '+' then some 1 else if c = '-' then some (-1) else none
        let (hours, rest) ← readDigits? 2 rest 0
        let rest ← expectChar? ':' rest
        let (minutes, rest) ← readDigits? 2 rest 0
        if minutes < 60 then return (sign * (hours * 3600 + minutes * 60), rest) else none

/-- What was read, if nothing is left. -/
def complete? {α : Type} : Option (α × List Char) → Option α
  | some (value, []) => some value
  | _ => none

/-- Reads a whole text as a date. -/
def Date.ofText? (text : String) : Option Date :=
  complete? (readDate? text.toList)

/-- Reads a whole text as a time of day. -/
def Clock.ofText? (text : String) : Option Clock :=
  complete? (readClock? text.toList)

/-- A date, a separator and a time of day. -/
def readDateTime? (cs : List Char) : Option (DateTime × List Char) := do
  let (date, cs) ← readDate? cs
  match cs with
  | c :: rest =>
      if c = 'T' ∨ c = 't' ∨ c = ' ' then
        let (clock, rest) ← readClock? rest
        return (⟨date, clock⟩, rest)
      else none
  | [] => none

/-- Reads a whole text as a date and a time of day. -/
def DateTime.ofText? (text : String) : Option DateTime :=
  complete? (readDateTime? text.toList)

/-- Reads a whole text as a local date and time with its offset from universal time; the year has
no sign. -/
def readZoned? (text : String) : Option (DateTime × Int) :=
  complete? do
    unless text.toList.head?.any Char.isDigit do none
    let (local_, cs) ← readDateTime? text.toList
    let (offset, cs) ← readOffset? cs
    return ((local_, offset), cs)

/-- Reads a date, a time of day and an offset, as the date and time of universal time. -/
def DateTime.utcOfText? (text : String) : Option DateTime :=
  (readZoned? text).map fun (t, offset) => t.shift (-offset)

end QueryChain
