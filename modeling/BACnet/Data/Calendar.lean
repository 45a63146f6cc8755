import BACnet.Data.Error

/-!
# Dates and times

A date or a time travels as four octets, and keeps them: an octet of 255 leaves a field open, and
some values beyond the calendar have a meaning of their own, such as "the last day of the month".
Beside them stand the days of the Gregorian calendar and the readings of a clock, with the
conversions between the two.
-/

namespace BACnet

/-- The octet that leaves a field of a date or a time open. -/
def unspecifiedOctet : UInt8 := 255

/-- A date as it travels: years since 1900, month, day of the month, and weekday from Monday, 1. -/
structure Date where
  year : UInt8
  month : UInt8
  day : UInt8
  weekday : UInt8
  deriving DecidableEq, Repr

/-- A time of day as it travels. -/
structure TimeOfDay where
  hour : UInt8
  minute : UInt8
  second : UInt8
  hundredths : UInt8
  deriving DecidableEq, Repr

/-- A day of the Gregorian calendar, which is continued into the past. -/
structure CalendarDay where
  year : Int
  month : Nat
  day : Nat
  deriving DecidableEq, Repr

/-- The reading of a clock. Within the last second of a minute, `nano` reaches beyond one second
during a leap second. -/
structure ClockReading where
  hour : Nat
  minute : Nat
  second : Nat
  nano : Nat
  deriving DecidableEq, Repr

namespace CalendarDay

/-- Whether a year has a 29th of February. -/
def isLeap (year : Int) : Bool := year % 4 == 0 && (year % 100 != 0 || year % 400 == 0)

/-- The number of days of a month. -/
def monthLength (year : Int) : Nat → Nat
  | 1 | 3 | 5 | 7 | 8 | 10 | 12 => 31
  | 4 | 6 | 9 | 11 => 30
  | 2 => if isLeap year then 29 else 28
  | _ => 0

/-- The day with these numbers, if the calendar has one. -/
def of? (year : Int) (month day : Nat) : Option CalendarDay :=
  if 1 ≤ day ∧ day ≤ monthLength year month then some ⟨year, month, day⟩ else none

/-- The number of days in the months of a year before the given one. -/
def daysBefore (year : Int) (month : Nat) : Nat :=
  (List.range (month - 1)).foldl (fun days earlier => days + monthLength year (earlier + 1)) 0

/-- The number of days from the first day of the year 1 to a day. -/
def dayNumber (date : CalendarDay) : Int :=
  let years := date.year - 1
  years * 365 + years / 4 - years / 100 + years / 400 +
    (daysBefore date.year date.month : Int) + ((date.day : Int) - 1)

/-- The weekday, from Monday, 1, to Sunday, 7: the first day of the year 1 is a Monday. -/
def weekday (date : CalendarDay) : Nat := (date.dayNumber % 7).toNat + 1

end CalendarDay

/-- A number with leading zeros up to a width. -/
def paddedDecimal (width value : Nat) : String :=
  let digits := Nat.toDigits 10 value
  String.ofList (List.replicate (width - digits.length) '0' ++ digits)

/-- Year, month and day of a calendar day of our era, joined by hyphens. -/
def CalendarDay.text (date : CalendarDay) : String :=
  paddedDecimal 4 date.year.toNat ++ "-" ++ paddedDecimal 2 date.month ++ "-" ++
    paddedDecimal 2 date.day

namespace Date

/-- The date of a calendar year; the field of the year reaches from 1900 to 2154. -/
def new (year : Int) (month day weekday : UInt8) : Except DataError Date :=
  if 1900 ≤ year ∧ year ≤ 2154 then .ok ⟨UInt8.ofNat (year - 1900).toNat, month, day, weekday⟩
  else .error (.valueOutOfRange (.year year))

/-- The calendar year, unless it is left open. -/
def calendarYear? (date : Date) : Option Nat :=
  if date.year = unspecifiedOctet then none else some (1900 + date.year.toNat)

/-- The content octets of the date. -/
def content (date : Date) : Octets := [date.year, date.month, date.day, date.weekday]

/-- Reads a date from four octets. -/
def decodeContent : Octets → Except DataError Date
  | [year, month, day, weekday] => .ok ⟨year, month, day, weekday⟩
  | octets => .error (.invalidLength .date octets.length)

/-- The date of a calendar day. -/
def ofCalendar (date : CalendarDay) : Except DataError Date :=
  new date.year (UInt8.ofNat date.month) (UInt8.ofNat date.day) (UInt8.ofNat date.weekday)

/-- The calendar day of a date, if the date names one. Its weekday is not looked at. -/
def toCalendar (date : Date) : Except DataError CalendarDay :=
  match date.calendarYear? with
  | none => .error (.valueOutOfRange .unspecifiedYear)
  | some year =>
    match CalendarDay.of? year date.month.toNat date.day.toNat with
    | some day => .ok day
    | none => .error (.valueOutOfRange (.calendarDate year date.month date.day))

end Date

namespace ClockReading

/-- The nanoseconds of a second. -/
def nanosPerSecond : Nat := 1000000000

/-- The reading with these numbers, if a clock can show it: only the last second of a minute can be
longer than a second. -/
def of? (hour minute second nano : Nat) : Option ClockReading :=
  if hour < 24 ∧ minute < 60 ∧ second < 60 ∧
      (nano < nanosPerSecond ∨ (second = 59 ∧ nano < 2 * nanosPerSecond)) then
    some ⟨hour, minute, second, nano⟩
  else none

/-- Hours, minutes and seconds, and milliseconds unless there are none. A leap second is shown as
the 60th. -/
def text (reading : ClockReading) : String :=
  let leap := reading.nano / nanosPerSecond
  let millis := reading.nano % nanosPerSecond / 1000000
  let whole := paddedDecimal 2 reading.hour ++ ":" ++ paddedDecimal 2 reading.minute ++ ":" ++
    paddedDecimal 2 (reading.second + leap)
  if millis = 0 then whole else whole ++ "." ++ paddedDecimal 3 millis

end ClockReading

namespace TimeOfDay

/-- The content octets of the time. -/
def content (time : TimeOfDay) : Octets := [time.hour, time.minute, time.second, time.hundredths]

/-- Reads a time from four octets. -/
def decodeContent : Octets → Except DataError TimeOfDay
  | [hour, minute, second, hundredths] => .ok ⟨hour, minute, second, hundredths⟩
  | octets => .error (.invalidLength .time octets.length)

/-- The time of a clock reading, cut to hundredths. A leap second stays at the last hundredth. -/
def ofClock (reading : ClockReading) : TimeOfDay :=
  ⟨UInt8.ofNat reading.hour, UInt8.ofNat reading.minute, UInt8.ofNat reading.second,
    UInt8.ofNat (min (reading.nano / 10000000) 99)⟩

/-- The clock reading of a time, if the time names one. Open hundredths count as zero. -/
def toClock (time : TimeOfDay) : Except DataError ClockReading :=
  let hundredths := if time.hundredths = unspecifiedOctet then 0 else time.hundredths.toNat
  match ClockReading.of? time.hour.toNat time.minute.toNat time.second.toNat
      (hundredths * 10000000) with
  | some reading => .ok reading
  | none =>
    .error (.valueOutOfRange (.timeOfDay time.hour time.minute time.second time.hundredths))

end TimeOfDay

end BACnet
