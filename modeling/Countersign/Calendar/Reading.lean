/-
Module: Countersign.Calendar.Reading
Purpose: Reading dates and moments from text by the full rules.
Main exports: CalendarFault, Date.read, Moment.read
-/
import Countersign.Calendar.Literal
import Countersign.Text.Quoted
import Countersign.Text.Utf8

namespace Countersign

open Text

/-!
The full rules know dates by month and by week, with or without separators, any one character between
date and time, and offsets down to microseconds. They look at the bytes of a text, and at its end find
the byte zero. In front of an offset one more byte may follow the clock, and digits beyond microseconds
do not count. The offset is judged first, then the date, then the clock.
-/

/-- Why a text is no date or moment by the full rules. -/
inductive CalendarFault where
  | layout (text : String)
  | year (year : Nat)
  | month
  | day
  | hour
  | minute
  | second
  | offset (micros : Int)
deriving DecidableEq, Repr

namespace CalendarFault

def message : CalendarFault → String
  | .layout source => "Invalid isoformat string: " ++ quoted source
  | .year n => s!"year {n} is out of range"
  | .month => "month must be in 1..12"
  | .day => "day is out of range for month"
  | .hour => "hour must be in 0..23"
  | .minute => "minute must be in 0..59"
  | .second => "second must be in 0..59"
  | .offset micros =>
      "offset must be a timedelta strictly between -timedelta(hours=24) and timedelta(hours=24), "
        ++ s!"not {durationText micros}."

end CalendarFault

/-! ### Bytes -/

/-- The bytes of a text. -/
def bytesOf (s : String) : List UInt8 := (utf8Bytes s).map Nat.toUInt8

/-- The byte of a character of ASCII. -/
def byte (c : Char) : UInt8 := c.toNat.toUInt8

/-- The byte at the head of a list, zero at its end. -/
def headByte (bytes : List UInt8) : UInt8 := bytes.headD 0

/-- The value of a byte that is a digit. -/
def byteDigit? (b : UInt8) : Option Nat :=
  if byte '0' ≤ b ∧ b ≤ byte '9' then some (b.toNat - '0'.toNat) else none

def isByteDigit (b : UInt8) : Bool := (byteDigit? b).isSome

/-- A number of exactly `count` digits at the head of a list, and what follows it. -/
def scanNumber? (count : Nat) (bytes : List UInt8) : Option (Nat × List UInt8) :=
  let digits := (bytes.take count).filterMap byteDigit?
  if digits.length = count then
    some (digits.foldl (fun n digit => 10 * n + digit) 0, bytes.drop count)
  else none

/-- What follows a byte that must be at the head of a list. -/
def scanByte? (wanted : Char) : List UInt8 → Option (List UInt8)
  | b :: rest => if b = byte wanted then some rest else none
  | [] => none

namespace Date

/-! ### Dates -/

/-- What the text of a date gives before its ranges are looked at. -/
inductive Layout where
  | byMonth (year month day : Nat)
  | byWeek (year week weekday : Nat)

/-- Read the week, and the day of it unless the date ends there, of a date that is `length` bytes
long. -/
def scanWeek? (length year : Nat) (separated : Bool) (bytes : List UInt8) : Option Layout := do
  let (week, rest) ← scanNumber? 2 bytes
  if length ≤ (if separated then 8 else 7) then some (.byWeek year week 1)
  else
    let rest ← if separated then scanByte? '-' rest else some rest
    let (weekday, _) ← scanNumber? 1 rest
    some (.byWeek year week weekday)

/-- Read the month and the day of a date. What follows them does not count. -/
def scanMonth? (year : Nat) (separated : Bool) (bytes : List UInt8) : Option Layout := do
  let (month, rest) ← scanNumber? 2 bytes
  let rest ← if separated then scanByte? '-' rest else some rest
  let (day, _) ← scanNumber? 2 rest
  some (.byMonth year month day)

/-- Split the date at the head of a list, `length` bytes long, into its numbers, with hyphens throughout
or without any. -/
def scanLayout? (length : Nat) (bytes : List UInt8) : Option Layout := do
  let (year, rest) ← scanNumber? 4 bytes
  let separated := headByte rest == byte '-'
  let rest := if separated then rest.drop 1 else rest
  match scanByte? 'W' rest with
  | some rest => scanWeek? length year separated rest
  | none => scanMonth? year separated rest

/-- The Monday of the first week of a year: the week that holds its fourth of January. -/
def firstMonday (year : Nat) : Int :=
  let fourth := (Date.mk year 1 4).toDays
  fourth - (fourth + 3) % 7

/-- The number of weeks in a year. -/
def weeksIn (year : Nat) : Nat := ((firstMonday (year + 1) - firstMonday year) / 7).toNat

/-- The day that a week and a weekday of a year are, if the year has them. A week of the year zero is in
no month. -/
def ofWeek? (year week weekday : Nat) : Option Date :=
  if 1 ≤ week ∧ week ≤ weeksIn year ∧ 1 ≤ weekday ∧ weekday ≤ 7 then
    if year = 0 then some ⟨1, 0, 0⟩
    else some (ofDays (firstMonday year + 7 * ((week : Int) - 1) + ((weekday : Int) - 1)))
  else none

/-- The day that the text of a date names. Its numbers need not be in range yet. -/
def Layout.day? : Layout → Option Date
  | .byMonth year month day => some ⟨year, month, day⟩
  | .byWeek year week weekday => ofWeek? year week weekday

/-- The same day, if its numbers are in range. -/
def inRange (d : Date) : Except CalendarFault Date :=
  if d.year = 0 ∨ 9999 < d.year then .error (.year d.year)
  else if d.month = 0 ∨ 12 < d.month then .error .month
  else if d.day = 0 ∨ daysInMonth d.year d.month < d.day then .error .day
  else .ok d

/-- The lengths that the text of a date may have. -/
def lengths : List Nat := [7, 8, 10]

/-- Read a date by the full rules. -/
def read (s : String) : Except CalendarFault Date :=
  let bytes := bytesOf s
  let day :=
    if lengths.contains bytes.length && !hasHalf s then
      (scanLayout? bytes.length bytes).bind Layout.day?
    else none
  match day with
  | none => .error (.layout s)
  | some date => date.inRange

end Date

namespace Moment

/-! ### Times -/

/-- The numbers of a time: hour, minute, second and microsecond. -/
structure ClockReading where
  hour : Nat
  minute : Nat
  second : Nat
  micros : Nat

namespace ClockReading

/-- A reading by the numbers that were read, those that were not being zero. -/
def ofNumbers (numbers : List Nat) (micros : Nat) : ClockReading :=
  ⟨numbers.getD 0 0, numbers.getD 1 0, numbers.getD 2 0, micros⟩

def seconds (t : ClockReading) : Nat := (t.hour * 60 + t.minute) * 60 + t.second

def toMicros (t : ClockReading) : Nat := t.seconds * 1000000 + t.micros

end ClockReading

/-- What was read of a clock, and whether a byte other than zero was left. -/
abbrev ClockScan := List Nat × Nat × Bool

/-- Read a fraction: its first six digits count, the others are passed over. `ending` is the byte behind
the clock. -/
def scanFraction? (ending : UInt8) (bytes : List UInt8) : Option ClockScan :=
  let count := min 6 bytes.length
  (scanNumber? count bytes).map fun (n, rest) =>
    ([], n * Nat.pow 10 (6 - count), (rest.dropWhile isByteDigit).headD ending != 0)

/-- Read the numbers of a clock, `parts` of them at most, and a fraction of the last; colons stand
between all of them or none, which the first place decides. -/
def scanParts? (ending : UInt8) : Nat → Option Bool → List UInt8 → Option ClockScan
  | 0, _, bytes => scanFraction? ending bytes
  | parts + 1, separated, bytes => do
      let (n, rest) ← scanNumber? 2 bytes
      let separated := separated.getD (rest.headD ending == byte ':')
      let found (scan : ClockScan) : ClockScan := (n :: scan.1, scan.2)
      match rest with
      | [] => some ([n], 0, ending != 0)
      | [b] => some ([n], 0, b != 0)
      | b :: after =>
          if separated && b == byte ':' then
            (scanParts? ending parts (some separated) after).map found
          else if b == byte '.' || b == byte ',' then (scanFraction? ending after).map found
          else if separated then none
          else (scanParts? ending parts (some separated) rest).map found

/-- Read a clock, and tell whether a byte other than zero was left. -/
def scanClock? (ending : UInt8) (bytes : List UInt8) : Option (ClockReading × Bool) :=
  (scanParts? ending 3 none bytes).map fun (numbers, micros, left) =>
    (.ofNumbers numbers micros, left)

/-- The offset of a time, when it has one. -/
inductive OffsetReading where
  | absent
  | universal
  | east (negative : Bool) (size : ClockReading)

/-- Whether an offset begins with a byte. -/
def isMark (b : UInt8) : Bool := b == byte '+' || b == byte '-' || b == byte 'Z'

/-- Split a time into its clock and its offset, which begins at the first sign or `Z`. An offset of no
whole second is universal time. -/
def scanTime? (bytes : List UInt8) : Option (ClockReading × OffsetReading) := do
  let offset := bytes.dropWhile (!isMark ·)
  let (clock, left) ← scanClock? (headByte offset) (bytes.takeWhile (!isMark ·))
  match offset with
  | [] => if left then none else some (clock, .absent)
  | mark :: rest =>
      if mark == byte 'Z' then
        if headByte rest == 0 then some (clock, .universal) else none
      else
        let (size, left) ← scanClock? 0 rest
        if left then none
        else if size.seconds = 0 then some (clock, .universal)
        else some (clock, .east (mark == byte '-') size)

/-- How long the date at the head of a text is. A week may or may not be followed by its day, which
what comes after it decides. -/
def dateLength (bytes : List UInt8) : Nat :=
  if bytes.length = 7 then 7
  else if bytes[4]? == some (byte '-') then
    if bytes[5]? == some (byte 'W') then
      if bytes[8]? == some (byte '-') && !((bytes[10]?.map isByteDigit).getD false) then 10 else 8
    else 10
  else if bytes[4]? == some (byte 'W') then
    let stop := 7 + ((bytes.drop 7).takeWhile isByteDigit).length
    if stop < 9 then stop else if stop % 2 = 0 then 7 else 8
  else 8

/-- The length of the character whose first byte is given. -/
def characterLength (b : UInt8) : Nat :=
  if b < 0x80 then 1 else if b < 0xe0 then 2 else if b < 0xf0 then 3 else 4

/-- The same text with the half of a surrogate pair that may separate date and time replaced by the
usual separator. -/
def withPlainSeparator (s : String) : String :=
  let found := codes s
  match [7, 8, 10].find? fun index => ((found[index]?).map isHalf).getD false with
  | some index => ofCodes (found.set index 'T'.toNat)
  | none => s

def offsetMicros (negative : Bool) (size : ClockReading) : Int :=
  if negative then -(size.toMicros : Int) else size.toMicros

/-- Put the parts of a moment together, if they are in range. -/
def build (date : Date) (clock : ClockReading) (offset : OffsetReading) :
    Except CalendarFault Moment := do
  let offset ←
    match offset with
    | .absent => pure none
    | .universal => pure (some 0)
    | .east negative size =>
        let offset := offsetMicros negative size
        if microsPerDay ≤ offset.natAbs then throw (.offset offset) else pure (some offset)
  let date ← date.inRange
  if 24 ≤ clock.hour then throw .hour
  if 60 ≤ clock.minute then throw .minute
  if 60 ≤ clock.second then throw .second
  return ⟨date.toDays * microsPerDay + clock.toMicros, offset⟩

/-- Read the time behind a date and a separator. -/
def scanRest? : List UInt8 → Option (ClockReading × OffsetReading)
  | [] => some (⟨0, 0, 0, 0⟩, .absent)
  | b :: rest => scanTime? ((b :: rest).drop (characterLength b))

/-- Read a moment by the full rules. -/
def read (s : String) : Except CalendarFault Moment :=
  let plain := withPlainSeparator s
  let bytes := bytesOf plain
  let length := dateLength bytes
  let parts : Option (Date × ClockReading × OffsetReading) :=
    if Text.length s < 7 || hasHalf plain then none
    else do
      let date ← (Date.scanLayout? length bytes).bind Date.Layout.day?
      let (clock, offset) ← scanRest? (bytes.drop length)
      some (date, clock, offset)
  match parts with
  | some (date, clock, offset) => build date clock offset
  | none => .error (.layout s)

end Moment

end Countersign
