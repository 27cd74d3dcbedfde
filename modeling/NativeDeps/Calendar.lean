import NativeDeps.Text.Digits

/-!
# Dates and moments

Days of the calendar and moments of a day, with the checks that make them real
and the two ways they are written: as text, and as an expression inside another
value.
-/

namespace NativeDeps.Calendar

/-- A day of the calendar. -/
structure Date where
  year : Nat
  month : Nat
  day : Nat
deriving Repr, DecidableEq

/-- A moment of a day; `offset` is the distance of its clock from universal time in seconds. -/
structure Moment where
  date : Date
  hour : Nat
  minute : Nat
  second : Nat
  microsecond : Nat
  offset : Option Int
deriving Repr, DecidableEq

/-- What makes a date or a moment impossible. -/
inductive Fault
  | year (value : Nat)
  | month
  | day
  | hour
  | minute
  | second
  | offset (seconds : Int)
deriving Repr, DecidableEq

/-- Whether February has twenty-nine days. -/
def isLeapYear (year : Nat) : Bool :=
  year % 4 == 0 && (year % 100 != 0 || year % 400 == 0)

def daysOfMonth (year month : Nat) : Nat :=
  if month == 2 then
    if isLeapYear year then 29 else 28
  else if month == 4 || month == 6 || month == 9 || month == 11 then
    30
  else
    31

namespace Date

/-- What is impossible about a date, if anything. -/
def fault? (date : Date) : Option Fault :=
  if date.year == 0 || 9999 < date.year then
    some (.year date.year)
  else if date.month == 0 || 12 < date.month then
    some .month
  else if date.day == 0 || daysOfMonth date.year date.month < date.day then
    some .day
  else
    none

/-- The number of days from the first of March of the year zero. -/
def dayNumber (date : Date) : Int :=
  let shifted : Int := if date.month ≤ 2 then date.year - 1 else date.year
  let month := (date.month + 9) % 12
  365 * shifted + shifted.fdiv 4 - shifted.fdiv 100 + shifted.fdiv 400 +
    ((153 * month + 2) / 5 : Nat) + date.day

/-- Year, month and day joined by hyphens. -/
def chars (date : Date) : List Char :=
  Text.decimal 4 date.year ++ '-' :: Text.decimal 2 date.month ++
    '-' :: Text.decimal 2 date.day

/-- The numbers of a date, joined by commas. -/
def arguments (date : Date) : List String :=
  [toString date.year, toString date.month, toString date.day]

/-- A date as an expression. -/
def expression (date : Date) : String :=
  "datetime.date(" ++ ", ".intercalate date.arguments ++ ")"

end Date

namespace Moment

/-- What is impossible about a moment, if anything; the offset is checked first. -/
def fault? (moment : Moment) : Option Fault :=
  match moment.offset with
  | some seconds =>
      if 86400 ≤ seconds.natAbs then some (.offset seconds) else clockFault
  | none => clockFault
where
  clockFault : Option Fault :=
    match moment.date.fault? with
    | some fault => some fault
    | none =>
        if 23 < moment.hour then some .hour
        else if 59 < moment.minute then some .minute
        else if 59 < moment.second then some .second
        else none

/-- An offset as sign, hours and minutes. -/
def offsetChars (seconds : Int) : List Char :=
  let minutes := seconds.natAbs / 60
  (if seconds < 0 then '-' else '+') ::
    Text.decimal 2 (minutes / 60) ++ ':' :: Text.decimal 2 (minutes % 60)

/-- A moment as text, with the given character between its date and its time. -/
def chars (separator : Char) (moment : Moment) : List Char :=
  moment.date.chars ++ separator :: Text.decimal 2 moment.hour ++
    ':' :: Text.decimal 2 moment.minute ++
    ':' :: Text.decimal 2 moment.second ++
    (if moment.microsecond == 0 then
      []
    else
      '.' :: Text.decimal 6 moment.microsecond) ++
    (match moment.offset with
      | none => []
      | some seconds => offsetChars seconds)

/-- A length of time as an expression: whole days first, then seconds that are not negative. -/
def durationExpression (seconds : Int) : String :=
  let days := seconds.fdiv 86400
  let rest := seconds.fmod 86400
  let parts :=
    (if days == 0 then [] else ["days=" ++ toString days]) ++
      (if rest == 0 then [] else ["seconds=" ++ toString rest])
  "datetime.timedelta(" ++
    (if parts.isEmpty then "0" else ", ".intercalate parts) ++ ")"

/-- An offset as an expression; the zero offset is universal time. -/
def offsetExpression (seconds : Int) : String :=
  if seconds == 0 then
    "datetime.timezone.utc"
  else
    "datetime.timezone(" ++ durationExpression seconds ++ ")"

/-- A moment as an expression; seconds and their fraction are left out when zero. -/
def expression (moment : Moment) : String :=
  let fine :=
    if moment.microsecond != 0 then
      [toString moment.second, toString moment.microsecond]
    else if moment.second != 0 then
      [toString moment.second]
    else
      []
  let zone :=
    match moment.offset with
    | none => []
    | some seconds => ["tzinfo=" ++ offsetExpression seconds]
  "datetime.datetime(" ++
    ", ".intercalate
      (moment.date.arguments ++
        [toString moment.hour, toString moment.minute] ++ fine ++ zone) ++
    ")"

/-- The microseconds from the beginning of the calendar, on the moment's own clock. -/
def clockReading (moment : Moment) : Int :=
  ((moment.date.dayNumber * 86400 +
      ((moment.hour * 60 + moment.minute) * 60 + moment.second : Nat)) *
    1000000) + moment.microsecond

/--
Whether two moments are the same.  A moment whose clock is set against universal
time never equals one whose clock is not.
-/
def same (left right : Moment) : Bool :=
  match left.offset, right.offset with
  | none, none => left.clockReading == right.clockReading
  | some leftOffset, some rightOffset =>
      left.clockReading - leftOffset * 1000000 ==
        right.clockReading - rightOffset * 1000000
  | _, _ => false

end Moment

namespace Fault

def message : Fault → String
  | .year value => "year " ++ toString value ++ " is out of range"
  | .month => "month must be in 1..12"
  | .day => "day is out of range for month"
  | .hour => "hour must be in 0..23"
  | .minute => "minute must be in 0..59"
  | .second => "second must be in 0..59"
  | .offset seconds =>
      "offset must be a timedelta strictly between -timedelta(hours=24) and " ++
        "timedelta(hours=24), not " ++ Moment.durationExpression seconds ++ "."

end Fault

end NativeDeps.Calendar
