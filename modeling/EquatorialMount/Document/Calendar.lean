/-!
# Days and times of day

Days of the Gregorian calendar from year 1 to year 9999, and times of day on them to the microsecond, with or without
an offset from universal time.
-/

namespace EquatorialMount

structure Day where
  year : Nat
  month : Nat
  day : Nat
deriving Repr, DecidableEq

/-- A time of day; `offset` is in minutes east of universal time. -/
structure Moment where
  day : Day
  hour : Nat
  minute : Nat
  second : Nat
  microsecond : Nat
  offset : Option Int
deriving Repr, DecidableEq

/-- What is wrong with a date or a time. -/
inductive CalendarError
  | year (value : Nat)
  | month
  | day
  | hour
  | minute
  | second
  /-- An offset, in minutes, of a whole day or more. -/
  | offset (minutes : Int)
deriving Repr, DecidableEq

namespace Calendar

def isLeapYear (year : Nat) : Bool := year % 4 = 0 && (year % 100 ≠ 0 || year % 400 = 0)

def daysInMonth (year month : Nat) : Nat :=
  if month = 2 then (if isLeapYear year then 29 else 28)
  else if month = 4 || month = 6 || month = 9 || month = 11 then 30 else 31

/-- The number of days before a day, counted from the first of January of year 1. -/
def dayNumber (d : Day) : Nat :=
  let y := d.year - 1
  let months := (List.range (d.month - 1)).map fun m => daysInMonth d.year (m + 1)
  y * 365 + y / 4 - y / 100 + y / 400 + months.foldl (· + ·) 0 + (d.day - 1)

def padded (width n : Nat) : String :=
  let s := toString n
  String.ofList (List.replicate (width - s.length) '0') ++ s

end Calendar

open Calendar

namespace Day

def check (d : Day) : Except CalendarError Day :=
  if d.year < 1 || 9999 < d.year then .error (.year d.year)
  else if d.month < 1 || 12 < d.month then .error .month
  else if d.day < 1 || daysInMonth d.year d.month < d.day then .error .day
  else .ok d

def text (d : Day) : String := s!"{padded 4 d.year}-{padded 2 d.month}-{padded 2 d.day}"

end Day

namespace Moment

def check (m : Moment) : Except CalendarError Moment := do
  if let some minutes := m.offset then
    if 24 * 60 ≤ minutes.natAbs then throw (.offset minutes)
  let _ ← m.day.check
  if 24 ≤ m.hour then throw .hour
  if 60 ≤ m.minute then throw .minute
  if 60 ≤ m.second then throw .second
  return m

/-- Microseconds since the start of the calendar, in the moment's own time. -/
def localMicroseconds (m : Moment) : Int :=
  (((dayNumber m.day * 24 + m.hour) * 60 + m.minute) * 60 + m.second) * 1000000 + m.microsecond

/-- Two moments with an offset are the same if they fall together; one with and one without never are. -/
def same (a b : Moment) : Bool :=
  match a.offset, b.offset with
  | some x, some y => a.localMicroseconds - x * 60000000 = b.localMicroseconds - y * 60000000
  | none, none => a.localMicroseconds = b.localMicroseconds
  | _, _ => false

def offsetText : Option Int → String
  | none => ""
  | some minutes =>
    let n := minutes.natAbs
    (if minutes < 0 then "-" else "+") ++ s!"{padded 2 (n / 60)}:{padded 2 (n % 60)}"

/-- Day and time with a separator between them; a fraction of a second has six places. -/
def text (separator : String) (m : Moment) : String :=
  m.day.text ++ separator ++ s!"{padded 2 m.hour}:{padded 2 m.minute}:{padded 2 m.second}"
    ++ (if m.microsecond = 0 then "" else "." ++ padded 6 m.microsecond) ++ offsetText m.offset

end Moment

namespace CalendarError

/-- An amount of time as whole days and the seconds left over, as it is named in messages. -/
def durationText (minutes : Int) : String :=
  let days := minutes.fdiv 1440
  let seconds := (minutes - days * 1440) * 60
  if seconds = 0 then s!"datetime.timedelta(days={days})"
  else if days = 0 then s!"datetime.timedelta(seconds={seconds})"
  else s!"datetime.timedelta(days={days}, seconds={seconds})"

def message : CalendarError → String
  | year value => s!"year {value} is out of range"
  | month => "month must be in 1..12"
  | day => "day is out of range for month"
  | hour => "hour must be in 0..23"
  | minute => "minute must be in 0..59"
  | second => "second must be in 0..59"
  | offset minutes =>
    "offset must be a timedelta strictly between -timedelta(hours=24) and timedelta(hours=24), not "
      ++ durationText minutes ++ "."

end CalendarError

end EquatorialMount
