import ScriptDocs.Text.Numeral

namespace ScriptDocs

/-!
Dates and moments of the calendar, checked part by part when they are made, and their texts.
-/

/-- Why numbers make up no date or moment. -/
inductive CalendarFault where
  | year (year : Nat)
  | month
  | day
  | hour
  | minute
  | second
  | offset (seconds : Int)
  deriving DecidableEq, Repr

/-- A duration of whole seconds as days and the seconds of a day. -/
def durationText (seconds : Int) : Text :=
  let days := Int.fdiv seconds 86400
  let rest := Int.fmod seconds 86400
  let parts :=
    (if days == 0 then [] else ["days=".toList ++ Text.ofInt days]) ++
    (if rest == 0 then [] else ["seconds=".toList ++ Text.ofInt rest])
  "datetime.timedelta(".toList ++
    (if parts.isEmpty then ['0'] else Text.joinWith ", ".toList parts) ++ [')']

def CalendarFault.message : CalendarFault → Text
  | .year number => "year ".toList ++ Text.ofNat number ++ " is out of range".toList
  | .month => "month must be in 1..12".toList
  | .day => "day is out of range for month".toList
  | .hour => "hour must be in 0..23".toList
  | .minute => "minute must be in 0..59".toList
  | .second => "second must be in 0..59".toList
  | .offset seconds =>
      "offset must be a timedelta strictly between -timedelta(hours=24) and ".toList ++
        "timedelta(hours=24), not ".toList ++ durationText seconds ++ ".".toList

structure Date where
  year : Nat
  month : Nat
  day : Nat
  deriving DecidableEq, Repr, Inhabited

def isLeapYear (year : Nat) : Bool :=
  year % 4 == 0 && (year % 100 != 0 || year % 400 == 0)

def daysInMonth (year month : Nat) : Nat :=
  if month == 2 then (if isLeapYear year then 29 else 28)
  else if [4, 6, 9, 11].contains month then 30
  else 31

namespace Date

def make (year month day : Nat) : Except CalendarFault Date :=
  if year == 0 || 9999 < year then .error (.year year)
  else if month == 0 || 12 < month then .error .month
  else if day == 0 || daysInMonth year month < day then .error .day
  else .ok ⟨year, month, day⟩

def text (date : Date) : Text :=
  Text.decimalFixed 4 date.year ++ ['-'] ++ Text.decimalFixed 2 date.month ++ ['-'] ++
    Text.decimalFixed 2 date.day

/-- The days from a fixed day long ago to a date. -/
def ordinal (date : Date) : Nat :=
  let before := date.year - 1
  let months := (List.range (date.month - 1)).map (fun month => daysInMonth date.year (month + 1))
  365 * before + before / 4 - before / 100 + before / 400 + months.foldl (· + ·) 0 + date.day

end Date

/-- A moment: a date, a time of day and, if it is known, the offset of its zone in seconds. -/
structure Moment where
  date : Date
  hour : Nat
  minute : Nat
  second : Nat
  microsecond : Nat
  offset : Option Int
  deriving DecidableEq, Repr, Inhabited

namespace Moment

/-- The moment of a date, a time of day and an offset; the offset is looked at first. -/
def make (year month day hour minute second microsecond : Nat) (offset : Option Int) :
    Except CalendarFault Moment :=
  match offset.filter (fun seconds => 86400 ≤ seconds.natAbs) with
  | some seconds => .error (.offset seconds)
  | none =>
      match Date.make year month day with
      | .error fault => .error fault
      | .ok date =>
          if 23 < hour then .error .hour
          else if 59 < minute then .error .minute
          else if 59 < second then .error .second
          else .ok { date, hour, minute, second, microsecond, offset }

/-- An offset as hours and minutes. -/
def offsetText (seconds : Int) : Text :=
  let minutes := seconds.natAbs / 60
  [if seconds < 0 then '-' else '+'] ++ Text.decimalFixed 2 (minutes / 60) ++ [':'] ++
    Text.decimalFixed 2 (minutes % 60)

def text (moment : Moment) : Text :=
  moment.date.text ++ [' '] ++ Text.decimalFixed 2 moment.hour ++ [':'] ++
    Text.decimalFixed 2 moment.minute ++ [':'] ++ Text.decimalFixed 2 moment.second ++
    (if moment.microsecond == 0 then [] else '.' :: Text.decimalFixed 6 moment.microsecond) ++
    (moment.offset.map offsetText).getD []

/-- The microseconds from a fixed day to a moment, counted without its offset. -/
def microseconds (moment : Moment) : Int :=
  ((moment.date.ordinal * 24 + moment.hour) * 60 + moment.minute) * 60000000 +
    (moment.second * 1000000 + moment.microsecond : Nat)

/-- Whether two moments are the same: both with an offset and at the same instant, or both without
one and at the same time. -/
def same (left right : Moment) : Bool :=
  match left.offset, right.offset with
  | some a, some b => left.microseconds - a * 1000000 == right.microseconds - b * 1000000
  | none, none => left.microseconds == right.microseconds
  | _, _ => false

end Moment

end ScriptDocs
