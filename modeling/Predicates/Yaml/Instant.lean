/-
This file holds the dates and times that YAML texts can write.
-/

namespace Predicates.Yaml

/-- Times are kept to the microsecond, and an offset counts minutes east of the meridian. -/
structure ClockTime where
  hour : Nat
  minute : Nat
  second : Nat
  microsecond : Nat
  offset : Option Int
  deriving DecidableEq

structure Instant where
  year : Nat
  month : Nat
  day : Nat
  time : Option ClockTime
  deriving DecidableEq

/-- A date or time has the right form and yet need not exist. -/
inductive CalendarFault where
  | year (value : Nat)
  | month
  | day
  | hour
  | minute
  | second
  | offset (minutes : Int)
  deriving DecidableEq

/-- A span of time is written in days and in the seconds that are left over. -/
def spanText (minutes : Int) : String :=
  let days := minutes.fdiv 1440
  let seconds := 60 * minutes.fmod 1440
  if seconds = 0 then s!"datetime.timedelta(days={days})"
  else s!"datetime.timedelta(days={days}, seconds={seconds})"

def CalendarFault.message : CalendarFault → String
  | .year value => s!"year {value} is out of range"
  | .month => "month must be in 1..12"
  | .day => "day is out of range for month"
  | .hour => "hour must be in 0..23"
  | .minute => "minute must be in 0..59"
  | .second => "second must be in 0..59"
  | .offset minutes =>
    "offset must be a timedelta strictly between -timedelta(hours=24) and " ++
      s!"timedelta(hours=24), not {spanText minutes}."

namespace Instant

def isLeapYear (year : Nat) : Bool :=
  year % 4 = 0 && (year % 100 ≠ 0 || year % 400 = 0)

def daysInMonth (year month : Nat) : Nat :=
  if month = 2 then (if isLeapYear year then 29 else 28)
  else if month = 4 || month = 6 || month = 9 || month = 11 then 30
  else 31

def checkDate (year month day : Nat) : Except CalendarFault Unit :=
  if year = 0 then .error (.year year)
  else if month = 0 || 12 < month then .error .month
  else if day = 0 || daysInMonth year month < day then .error .day
  else .ok ()

def checkTime (time : ClockTime) : Except CalendarFault Unit :=
  if 23 < time.hour then .error .hour
  else if 59 < time.minute then .error .minute
  else if 59 < time.second then .error .second
  else .ok ()

/-- An offset is less than a day. -/
def checkOffset : Option Int → Except CalendarFault Unit
  | none => .ok ()
  | some offset => if 1440 ≤ offset.natAbs then .error (.offset offset) else .ok ()

def digitsValue (digits : List Char) : Nat :=
  digits.foldl (fun value digit => 10 * value + (digit.toNat - '0'.toNat)) 0

/-- A field has between the given numbers of digits, and no further digit follows it. -/
def takeField? (least greatest : Nat) (text : List Char) : Option (Nat × List Char) :=
  let digits := text.takeWhile Char.isDigit
  if least ≤ digits.length && digits.length ≤ greatest then
    some (digitsValue digits, text.drop digits.length)
  else none

def takeMark? (mark : Char) : List Char → Option (List Char)
  | [] => none
  | character :: rest => if character = mark then some rest else none

def isSpacing (character : Char) : Bool :=
  character = ' ' || character = '\t'

/-- Six places of the fraction are kept. -/
def microseconds (digits : List Char) : Nat :=
  digitsValue ((digits ++ List.replicate 6 '0').take 6)

def takeFraction : List Char → Nat × List Char
  | '.' :: rest =>
    let digits := rest.takeWhile Char.isDigit
    (microseconds digits, rest.drop digits.length)
  | text => (0, text)

def readOffset? (text : List Char) : Option (Option Int) :=
  match text with
  | [] => some none
  | _ =>
    match text.dropWhile isSpacing with
    | ['Z'] => some (some 0)
    | sign :: rest =>
      if sign = '+' || sign = '-' then do
        let (hours, afterHours) ← takeField? 1 2 rest
        let minutes ←
          match afterHours with
          | [] => some 0
          | _ => do
            let afterColon ← takeMark? ':' afterHours
            let (minutes, afterMinutes) ← takeField? 2 2 afterColon
            if afterMinutes.isEmpty then some minutes else none
        let offset : Int := 60 * hours + minutes
        return some (if sign = '-' then -offset else offset)
      else none
    | [] => none

/-- A time follows the date after the letter T or after blanks. -/
def takeSeparator? (text : List Char) : Option (List Char) :=
  match text with
  | 'T' :: rest => some rest
  | 't' :: rest => some rest
  | character :: _ => if isSpacing character then some (text.dropWhile isSpacing) else none
  | [] => none

def readTime? (text : List Char) : Option ClockTime := do
  let afterSeparator ← takeSeparator? text
  let (hour, afterHour) ← takeField? 1 2 afterSeparator
  let minuteText ← takeMark? ':' afterHour
  let (minute, afterMinute) ← takeField? 2 2 minuteText
  let secondText ← takeMark? ':' afterMinute
  let (second, afterSecond) ← takeField? 2 2 secondText
  let (microsecond, afterFraction) := takeFraction afterSecond
  let offset ← readOffset? afterFraction
  return ⟨hour, minute, second, microsecond, offset⟩

/-- The month and the day can have one place or two. -/
def read? (text : List Char) : Option Instant := do
  let (year, afterYear) ← takeField? 4 4 text
  let monthText ← takeMark? '-' afterYear
  let (month, afterMonth) ← takeField? 1 2 monthText
  let dayText ← takeMark? '-' afterMonth
  let (day, afterDay) ← takeField? 1 2 dayText
  if afterDay.isEmpty then return ⟨year, month, day, none⟩
  else
    let time ← readTime? afterDay
    return ⟨year, month, day, some time⟩

/-- A date alone is recognised only with two places for the month and for the day. -/
def isWritten (text : List Char) : Bool :=
  (read? text).any fun instant => instant.time.isSome || text.length = 10

/-- The offset is checked before the date and the time. -/
def check (instant : Instant) : Except CalendarFault Unit := do
  checkOffset (instant.time.bind ClockTime.offset)
  checkDate instant.year instant.month instant.day
  match instant.time with
  | none => return
  | some time => checkTime time

/-- The days are counted from the start of the first year. -/
def dayNumber (year month day : Nat) : Nat :=
  let past := year - 1
  let earlier := (List.range month).drop 1
  let beforeMonth := earlier.foldl (fun days month => days + daysInMonth year month) 0
  365 * past + past / 4 - past / 100 + past / 400 + beforeMonth + day

/-- An instant with an offset has its place in time, counted in microseconds. -/
def moment? (instant : Instant) : Option Int :=
  instant.time.bind fun time =>
    time.offset.map fun offset =>
      let days := dayNumber instant.year instant.month instant.day
      let minutes : Int := 1440 * days + 60 * time.hour + time.minute - offset
      1000000 * (60 * minutes + time.second) + time.microsecond

/-- Instants with offsets are the same when they have the same place in time, and the others when
they are written alike. -/
def isSame (left right : Instant) : Bool :=
  match left.moment?, right.moment? with
  | some leftMoment, some rightMoment => leftMoment = rightMoment
  | none, none => left = right
  | _, _ => false

def padded (width value : Nat) : String :=
  let digits := Nat.toDigits 10 value
  String.ofList (List.replicate (width - digits.length) '0' ++ digits)

def offsetText (offset : Int) : String :=
  let minutes := offset.natAbs
  (if offset < 0 then "-" else "+") ++ padded 2 (minutes / 60) ++ ":" ++ padded 2 (minutes % 60)

def timeText (time : ClockTime) : String :=
  let clock := padded 2 time.hour ++ ":" ++ padded 2 time.minute ++ ":" ++ padded 2 time.second
  let fraction := if time.microsecond = 0 then "" else "." ++ padded 6 time.microsecond
  clock ++ fraction ++ (time.offset.map offsetText).getD ""

def text (instant : Instant) : String :=
  let date := padded 4 instant.year ++ "-" ++ padded 2 instant.month ++ "-" ++
    padded 2 instant.day
  match instant.time with
  | none => date
  | some time => date ++ " " ++ timeText time

end Instant

end Predicates.Yaml
