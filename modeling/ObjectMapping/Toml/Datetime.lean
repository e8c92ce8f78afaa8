/-!
# TOML dates and times

A bare TOML value that starts with digits and then `-` or `:` is a date, a time, or both, and
`Toml.checkDatetime` says whether its text is one. The forms are

* a date `YYYY-MM-DD` that exists (February has its 29th day in leap years);
* a time `HH:MM`, `HH:MM:SS` or `HH:MM:SS.fraction`, the hour at most 23, the minute at most 59
  and the second at most 60;
* a date and a time joined by `T`, `t` or a space, optionally followed by the offset `Z` (`z`)
  or `+HH:MM` / `-HH:MM` with at most 23 hours and 59 minutes.

The text is read as small tokens (digit runs and the separators). The first thing found wrong
gives the message: what was being read (a date, a time, an offset) and what was expected there.
The shape of each part is checked before its digits are counted, and its width before its range.
-/

namespace ObjectMapping.Toml

/-- The pieces a date or time is read in. -/
inductive DateToken where
  | digits (ds : List Char)
  | dash
  | colon
  | timeMark
  | space
  | zulu
  | plus
  | dot
  /-- Anything else, with all the text after it. -/
  | unknown
  deriving DecidableEq, Inhabited

/-- The piece at the front of a text, and the text after it. -/
def nextDateToken : List Char → Option (DateToken × List Char)
  | [] => none
  | c :: rest =>
    if c.isDigit then
      some (.digits (c :: rest.takeWhile Char.isDigit), rest.dropWhile Char.isDigit)
    else
      match c with
      | '-' => some (.dash, rest)
      | ':' => some (.colon, rest)
      | 'T' | 't' => some (.timeMark, rest)
      | ' ' => some (.space, rest)
      | 'Z' | 'z' => some (.zulu, rest)
      | '+' => some (.plus, rest)
      | '.' => some (.dot, rest)
      | _ => some (.unknown, [])

/-- Why a text is not a date or time: what was being read, and what was expected. -/
structure DatetimeProblem where
  what : Option String
  expected : Option String
  deriving Inhabited

/-- The message of a date or time problem. -/
def DatetimeProblem.message : DatetimeProblem → String
  | ⟨some what, some expected⟩ => "invalid " ++ what ++ ", expected " ++ expected
  | ⟨some what, none⟩ => "invalid " ++ what
  | ⟨none, some expected⟩ => "expected " ++ expected
  | ⟨none, none⟩ => "failed to parse datetime"

/-- The reader of a date or time: the text not yet read. -/
abbrev DateReader := StateT (List Char) (Except DatetimeProblem)

/-- Fails with what was being read and what was expected. -/
def dateFail (what : Option String) (expected : String) : DateReader α :=
  throw ⟨what, some expected⟩

/-- Takes the next piece. -/
def takeDateToken : DateReader (Option DateToken) := do
  match nextDateToken (← get) with
  | some (t, rest) => set rest; pure (some t)
  | none => pure none

/-- The next piece, left in place. -/
def peekDateToken : DateReader (Option DateToken) := do
  pure ((nextDateToken (← get)).map (·.1))

/-- Takes a run of digits, or fails with `what` and `expected`. -/
def takeDigits (what : Option String) (expected : String) : DateReader (List Char) := do
  match ← takeDateToken with
  | some (.digits ds) => pure ds
  | _ => dateFail what expected

/-- Takes a given separator, or fails with `what` and `expected`. -/
def takeSeparator (t : DateToken) (what : Option String) (expected : String) : DateReader Unit := do
  match ← takeDateToken with
  | some t' => if t' = t then pure () else dateFail what expected
  | none => dateFail what expected

/-- The value of a run of digits. -/
def digitValue (ds : List Char) : Nat :=
  ds.foldl (fun n c => 10 * n + (c.toNat - '0'.toNat)) 0

/-- Whether a year is a leap year of the Gregorian calendar. -/
def isLeapYear (year : Nat) : Bool :=
  year % 4 == 0 && (year % 100 != 0 || year % 400 == 0)

/-- The last day of a month, and how the range of its days is written. -/
def monthDays (year month : Nat) : Nat × String :=
  if month = 2 then
    if isLeapYear year then (29, "day between 01 and 29") else (28, "day between 01 and 28")
  else if month = 4 ∨ month = 6 ∨ month = 9 ∨ month = 11 then (30, "day between 01 and 30")
  else (31, "day between 01 and 31")

/-- The rest of a date after its year and `-`. -/
def dateRest (year : List Char) : DateReader Unit := do
  let month ← takeDigits (some "date") "month"
  takeSeparator .dash (some "date") "`-` (MM-DD)"
  let day ← takeDigits (some "date") "day"
  if year.length != 4 then dateFail (some "date") "a four-digit year (YYYY)"
  if month.length != 2 then dateFail (some "date") "a two-digit month (MM)"
  if day.length != 2 then dateFail (some "date") "a two-digit day (DD)"
  let m := digitValue month
  if m < 1 ∨ m > 12 then dateFail (some "date") "month between 01 and 12"
  let (last, range) := monthDays (digitValue year) m
  let d := digitValue day
  if d < 1 ∨ d > last then dateFail (some "date") range

/-- A time of day: hour, minute, and optionally second and fraction. -/
def timeOfDay : DateReader Unit := do
  let hour ← takeDigits (some "time") "hour"
  takeSeparator .colon (some "time") "`:` (HH:MM)"
  let minute ← takeDigits (some "time") "minute"
  let second ←
    if (← peekDateToken) == some .colon then do
      let _ ← takeDateToken
      some <$> takeDigits (some "time") "second"
    else pure none
  if second.isSome && (← peekDateToken) == some .dot then
    let _ ← takeDateToken
    let _ ← takeDigits (some "time") "nanosecond"
  if hour.length != 2 then dateFail (some "time") "a two-digit hour (HH)"
  if minute.length != 2 then dateFail (some "time") "a two-digit minute (MM)"
  match second with
  | some s => if s.length != 2 then dateFail (some "time") "a two-digit second (SS)"
  | none => pure ()
  if digitValue hour > 23 then dateFail (some "time") "hour between 00 and 23"
  if digitValue minute > 59 then dateFail (some "time") "minute between 00 and 59"
  if (second.map digitValue).getD 0 > 60 then dateFail (some "time") "second between 00 and 60"

/-- The numeric part of an offset, after its sign. -/
def offsetAmount : DateReader Unit := do
  let hours ← takeDigits (some "offset") "hour"
  takeSeparator .colon (some "offset") "`:` (HH:MM)"
  let minutes ← takeDigits (some "offset") "minute"
  if hours.length != 2 then dateFail (some "offset") "a two-digit hour (HH)"
  if minutes.length != 2 then dateFail (some "offset") "a two-digit minute (MM)"
  if digitValue hours > 23 then dateFail (some "offset") "hours between 00 and 23"
  if digitValue minutes > 59 then dateFail (some "offset") "minutes between 00 and 59"

/-- A date, a time, or a date and a time with an optional offset, and nothing after it. -/
def datetime : DateReader Unit := do
  let whole ← get
  let first ← takeDigits none "year or hour"
  let hasDate ←
    match ← takeDateToken with
    | some .dash => do dateRest first; pure true
    | some .colon => do set whole; pure false
    | _ => dateFail none "`-` (YYYY-MM) or `:` (HH:MM)"
  let hasTime ←
    if hasDate then
      match ← takeDateToken with
      | some .timeMark | some .space => pure true
      | some _ => dateFail (some "date-time") "`T` between date and time"
      | none => pure false
    else pure true
  if hasTime then timeOfDay
  if hasDate && hasTime then
    match ← takeDateToken with
    | some .zulu | none => pure ()
    | some .plus | some .dash => offsetAmount
    | some _ => dateFail (some "offset") "`Z`, +OFFSET, -OFFSET"
  if !(← get).isEmpty then throw ⟨none, none⟩

/-- Checks that a text is a date, a time, or both. -/
def checkDatetime (text : List Char) : Except DatetimeProblem Unit :=
  datetime.run' text

end ObjectMapping.Toml
