import BackingServices.Text.Blank

/-!
# Points in time

A point in time is written as a date, a time of day and an offset, such as
`2024-05-01T10:00:00Z` or `2024-05-01T12:00:00.5+02:00`.  Its normal form is the
same instant in universal time, cut to whole seconds.

The writing is read with some freedom.

* White space may stand before every number and behind it, and around the whole.
  Date and time of day are joined by one `T`, `t` or blank.
* A number has at most as many digits as its field is wide, and may have fewer.  A
  year with a sign has any number of digits.
* The offset is `Z`, `z`, or `UTC` in letters of any case, or hours and minutes of
  two digits each behind a sign, with colons and white space between them.

A field is checked against its own bounds as soon as it is read.  Whether the month
has such a day, and whether the calendar has such a year, is checked in the end.
A minute may have a 61st second, which keeps its name.

The calendar is the proleptic Gregorian one.  `Date.toDays` counts the days
since 1 March of the year 0, which makes the leap day the last day of a year, and
`Date.ofDays` inverts it.
-/

namespace BackingServices.Timestamp

/-- Why a text is no point in time. -/
inductive Fault where
  /-- The text ends too early. -/
  | tooShort
  /-- A character is out of place. -/
  | badCharacter
  /-- A field has no such value. -/
  | outOfRange
  /-- The instant lies before or behind the calendar. -/
  | impossible
  /-- Something follows the point in time. -/
  | trailing
deriving DecidableEq

/-- The wording of a fault. -/
def Fault.message : Fault → String
  | .tooShort => "premature end of input"
  | .badCharacter => "input contains invalid characters"
  | .outOfRange => "input is out of range"
  | .impossible => "no possible date and time matching input"
  | .trailing => "trailing input"

/-! ## The calendar -/

/-- A day of the calendar. -/
structure Date where
  /-- The year. -/
  year : Int
  /-- The month, counted from one. -/
  month : Nat
  /-- The day of the month, counted from one. -/
  day : Nat
deriving DecidableEq

/-- Whether a year has a leap day. -/
def isLeap (year : Int) : Bool := year % 4 == 0 && (year % 100 != 0 || year % 400 == 0)

/-- How many days a month has. -/
def monthLength (year : Int) (month : Nat) : Nat :=
  if month = 2 then (if isLeap year then 29 else 28)
  else if month = 4 ∨ month = 6 ∨ month = 9 ∨ month = 11 then 30 else 31

/-- The days from 1 March of the year 0 to a date. -/
def Date.toDays (d : Date) : Int :=
  let year := if d.month ≤ 2 then d.year - 1 else d.year
  let month := if d.month ≤ 2 then d.month + 9 else d.month - 3
  365 * year + year / 4 - year / 100 + year / 400 + Int.ofNat ((153 * month + 2) / 5 + (d.day - 1))

/-- The date of a number of days. -/
def Date.ofDays (days : Int) : Date :=
  let era := days / 146097
  let dayOfEra := (days % 146097).toNat
  let yearOfEra := (dayOfEra - dayOfEra / 1460 + dayOfEra / 36524 - dayOfEra / 146096) / 365
  let dayOfYear := dayOfEra - (365 * yearOfEra + yearOfEra / 4 - yearOfEra / 100)
  let month := (5 * dayOfYear + 2) / 153
  let day := dayOfYear - (153 * month + 2) / 5 + 1
  let year := Int.ofNat yearOfEra + era * 400
  if month < 10 then ⟨year, month + 3, day⟩ else ⟨year + 1, month - 9, day⟩

/-- The first day of the calendar. -/
def firstDate : Date := ⟨-262143, 1, 1⟩

/-- The last day of the calendar. -/
def lastDate : Date := ⟨262142, 12, 31⟩

/-- Whether the calendar has a date whose month is one. -/
def Date.isThere (d : Date) : Bool :=
  firstDate.year ≤ d.year && d.year ≤ lastDate.year && d.day ≤ monthLength d.year d.month

/-! ## Instants -/

/-- An instant, cut to whole seconds. -/
structure Instant where
  /-- The seconds since 1 March of the year 0, where a minute's 61st counts as its 60th. -/
  seconds : Int
  /-- Whether it is a minute's 61st second. -/
  isLeap : Bool
deriving DecidableEq

/-- The seconds of the first instant of 1970. -/
def unixStart : Int := Date.toDays ⟨1970, 1, 1⟩ * 86400

/-- A natural with leading zeros. -/
def padded (width n : Nat) : String :=
  let ds := Nat.toDigits 10 n
  String.ofList (List.replicate (width - ds.length) '0' ++ ds)

/-- A year in four digits, with a sign if they are not enough. -/
def yearText (year : Int) : String :=
  if 0 ≤ year ∧ year ≤ 9999 then padded 4 year.natAbs
  else (if year < 0 then "-" else "+") ++ padded 4 year.natAbs

/-- The normal form of an instant. -/
def Instant.text (i : Instant) : String :=
  let date := Date.ofDays (i.seconds / 86400)
  let time := (i.seconds % 86400).toNat
  let second := time % 60 + if i.isLeap then 1 else 0
  yearText date.year ++ "-" ++ padded 2 date.month ++ "-" ++ padded 2 date.day ++ "T" ++
    padded 2 (time / 3600) ++ ":" ++ padded 2 (time / 60 % 60) ++ ":" ++ padded 2 second ++ "Z"

/-! ## Reading -/

/-- Reads a number of at most so many digits, or of any number of them, up to a greatest one. -/
def number (width? : Option Nat) (greatest : Nat) : List Char → Except Fault (Nat × List Char)
  | [] => .error .tooShort
  | cs@(c :: _) =>
    if c.isDigit then
      let field := (cs.take (width?.getD cs.length)).takeWhile Char.isDigit
      let value := field.foldl (fun acc d => acc * 10 + (d.toNat - 48)) 0
      if greatest < value then .error .outOfRange else .ok (value, cs.drop field.length)
    else .error .badCharacter

/-- Reads a field of two digits between two bounds, behind white space. -/
def field (least greatest : Nat) (cs : List Char) : Except Fault (Nat × List Char) := do
  let (value, cs) ← number (some 2) greatest (cs.dropWhile Text.isBlank)
  if value < least then .error .outOfRange else .ok (value, cs)

/-- Reads a year, behind white space.  It fits 32 bits. -/
def year (cs : List Char) : Except Fault (Int × List Char) :=
  match cs.dropWhile Text.isBlank with
  | '-' :: cs => do
    let (value, cs) ← number none 2147483648 cs
    .ok (-Int.ofNat value, cs)
  | '+' :: cs => do
    let (value, cs) ← number none 2147483647 cs
    .ok (Int.ofNat value, cs)
  | cs => do
    let (value, cs) ← number (some 4) 9999 cs
    .ok (Int.ofNat value, cs)

/-- Reads one of some characters. -/
def oneOf (allowed : List Char) : List Char → Except Fault (List Char)
  | [] => .error .tooShort
  | c :: cs => if c ∈ allowed then .ok cs else .error .badCharacter

/-- Reads a character behind white space. -/
def mark (c : Char) (cs : List Char) : Except Fault (List Char) := oneOf [c] (cs.dropWhile Text.isBlank)

/-- Passes over a fraction of a second. -/
def fraction : List Char → Except Fault (List Char)
  | '.' :: c :: cs => if c.isDigit then .ok (cs.dropWhile Char.isDigit) else .error .badCharacter
  | ['.'] => .error .tooShort
  | cs => .ok cs

/-- Reads exactly two digits, of which the first stands for less than so many tens. -/
def pair (tens : Nat) : List Char → Except Fault (Nat × List Char)
  | [] => .error .tooShort
  | [c] => .error (if c.utf8Size = 1 then .tooShort else .badCharacter)
  | c :: d :: cs =>
    if c.isDigit ∧ d.isDigit then
      if c.toNat - 48 < tens then .ok ((c.toNat - 48) * 10 + (d.toNat - 48), cs) else .error .outOfRange
    else .error .badCharacter

/-- Whether a character may stand between the hours and the minutes of an offset. -/
def isSeparator (c : Char) : Bool := c == ':' || Text.isBlank c

/-- Reads an offset in minutes. -/
def offset : List Char → Except Fault (Int × List Char)
  | [] => .error .tooShort
  | c :: cs =>
    if c = 'Z' ∨ c = 'z' then .ok (0, cs)
    else if (c :: cs).take 3 |>.map Char.toUpper |> (· == ['U', 'T', 'C']) then .ok (0, cs.drop 2)
    else if c = '+' ∨ c = '-' ∨ c = '−' then do
      let (hours, cs) ← pair 10 cs
      let (minutes, cs) ← pair 6 (cs.dropWhile isSeparator)
      let total := Int.ofNat (hours * 60 + minutes)
      .ok (if c = '+' then total else -total, cs)
    else .error .badCharacter

/-- A point in time as it is written. -/
structure Written where
  /-- The date. -/
  date : Date
  /-- The hour. -/
  hour : Nat
  /-- The minute. -/
  minute : Nat
  /-- The second, which may be a 61st. -/
  second : Nat
  /-- How many minutes it is ahead of universal time. -/
  offset : Int
deriving DecidableEq

/-- Reads a point in time that nothing but white space follows. -/
def Written.read (cs : List Char) : Except Fault Written := do
  let (year, cs) ← Timestamp.year cs
  let cs ← mark '-' cs
  let (month, cs) ← field 1 12 cs
  let cs ← mark '-' cs
  let (day, cs) ← field 1 31 cs
  let cs ← oneOf ['T', 't', ' '] cs
  let (hour, cs) ← field 0 23 cs
  let cs ← mark ':' cs
  let (minute, cs) ← field 0 59 cs
  let cs ← mark ':' cs
  let (second, cs) ← field 0 60 cs
  let cs ← fraction cs
  let (offset, cs) ← Timestamp.offset (cs.dropWhile Text.isBlank)
  if cs.any fun c => !Text.isBlank c then .error .trailing
  else .ok ⟨⟨year, month, day⟩, hour, minute, second, offset⟩

/-- The instant that is written. -/
def Written.instant (w : Written) : Except Fault Instant :=
  if !w.date.isThere ∨ 24 * 60 ≤ w.offset.natAbs then .error .outOfRange
  else
    let time := Int.ofNat (w.hour * 3600 + w.minute * 60 + min w.second 59)
    let seconds := w.date.toDays * 86400 + time - w.offset * 60
    if seconds < firstDate.toDays * 86400 ∨ (lastDate.toDays + 1) * 86400 ≤ seconds then
      .error .impossible
    else .ok ⟨seconds, w.second == 60⟩

/-- The instant that a text writes. -/
def Instant.ofText (s : String) : Except Fault Instant := do (← Written.read s.toList).instant

/-- The normal form of a written point in time. -/
def normalise? (s : String) : Except Fault String := do .ok (← Instant.ofText s).text

/-! ## Examples -/

example : Date.ofDays (Date.toDays ⟨2024, 2, 29⟩) = ⟨2024, 2, 29⟩ := by decide

example : Date.ofDays (Date.toDays ⟨-1, 12, 31⟩) = ⟨-1, 12, 31⟩ := by decide

end BackingServices.Timestamp
