import TypedScalar.Error

/-! Dates and moments of the Gregorian calendar, as documents may hold them, and their text. -/

namespace TypedScalar

-- Sums start from the literal zero here, also where Mathlib declares its own.
attribute [local instance (high)] Zero.ofOfNat0

structure Date where
  year : Nat
  month : Nat
  day : Nat
  deriving DecidableEq, Repr

/-- A time of day on a date; the offset from universal time is in seconds, where it is known. -/
structure Moment where
  date : Date
  hour : Nat
  minute : Nat
  second : Nat
  microsecond : Nat
  offset : Option Int
  deriving DecidableEq, Repr

/-- Decimal digits with zeros in front, up to a width. -/
def padded (width n : Nat) : String :=
  let s := toString n
  String.ofList (List.replicate (width - s.length) '0') ++ s

namespace Date

def isLeap (year : Nat) : Bool := year % 4 == 0 && (year % 100 != 0 || year % 400 == 0)

def daysIn (year month : Nat) : Nat :=
  if month = 2 then (if isLeap year then 29 else 28)
  else if month = 4 ∨ month = 6 ∨ month = 9 ∨ month = 11 then 30
  else 31

def make (year month day : Nat) : Except CalendarFault Date :=
  if year < 1 ∨ 9999 < year then .error (.year year)
  else if month < 1 ∨ 12 < month then .error .month
  else if day < 1 ∨ daysIn year month < day then .error .day
  else .ok ⟨year, month, day⟩

def text (d : Date) : String := padded 4 d.year ++ "-" ++ padded 2 d.month ++ "-" ++ padded 2 d.day

def numbers (d : Date) : List Nat := [d.year, d.month, d.day]

def shown (d : Date) : String :=
  "datetime.date(" ++ ", ".intercalate (d.numbers.map toString) ++ ")"

/-- The number of days before a date since the first of January of year one. -/
def ordinal (d : Date) : Nat :=
  let y := d.year - 1
  y * 365 + y / 4 - y / 100 + y / 400 +
    ((List.range (d.month - 1)).map fun m => daysIn d.year (m + 1)).sum + (d.day - 1)

end Date

/-- Whether a number of seconds is a span of time; longer ones are mere numbers. -/
def isSpan (seconds : Int) : Bool := (seconds.fdiv 86400).natAbs ≤ 999999999

/-- A span of seconds, as whole days and the seconds of the rest, which are not negative. -/
def spanShown (seconds : Int) : String :=
  let days := seconds.fdiv 86400
  let rest := seconds.fmod 86400
  let parts :=
    (if days = 0 then [] else ["days=" ++ toString days]) ++
      (if rest = 0 then [] else ["seconds=" ++ toString rest])
  "datetime.timedelta(" ++ (if parts.isEmpty then "0" else ", ".intercalate parts) ++ ")"

namespace Moment

def make (date : Date) (hour minute second microsecond : Nat) (offset : Option Int) :
    Except CalendarFault Moment :=
  if 23 < hour then .error .hour
  else if 59 < minute then .error .minute
  else if 59 < second then .error .second
  else .ok ⟨date, hour, minute, second, microsecond, offset⟩

/-- An offset from universal time is less than a day. -/
def checkOffset (seconds : Int) : Except CalendarFault Int :=
  if -86400 < seconds ∧ seconds < 86400 then .ok seconds else .error (.offset (spanShown seconds))

def offsetText (seconds : Int) : String :=
  let n := seconds.natAbs
  (if seconds < 0 then "-" else "+") ++ padded 2 (n / 3600) ++ ":" ++ padded 2 (n / 60 % 60)

def text (m : Moment) : String :=
  m.date.text ++ " " ++ padded 2 m.hour ++ ":" ++ padded 2 m.minute ++ ":" ++ padded 2 m.second ++
    (if m.microsecond = 0 then "" else "." ++ padded 6 m.microsecond) ++
    (match m.offset with
      | none => ""
      | some s => offsetText s)

def shown (m : Moment) : String :=
  let tail :=
    if m.microsecond ≠ 0 then [m.second, m.microsecond] else if m.second ≠ 0 then [m.second] else []
  let zone :=
    match m.offset with
    | none => ""
    | some 0 => ", tzinfo=datetime.timezone.utc"
    | some s => ", tzinfo=datetime.timezone(" ++ spanShown s ++ ")"
  "datetime.datetime(" ++ ", ".intercalate ((m.date.numbers ++ [m.hour, m.minute] ++ tail).map toString) ++
    zone ++ ")"

/-- Microseconds since the beginning of year one, in universal time where the offset is known. -/
def instant (m : Moment) : Int :=
  let seconds : Int := (m.date.ordinal * 86400 + m.hour * 3600 + m.minute * 60 + m.second : Nat)
  (seconds - m.offset.getD 0) * 1000000 + m.microsecond

/-- Whether two moments are the same; one with an offset never is one without. -/
def same (a b : Moment) : Bool := a.offset.isSome == b.offset.isSome && a.instant == b.instant

end Moment

end TypedScalar
