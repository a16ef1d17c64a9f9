/-
Module: Countersign.Calendar.Field
Purpose: Reading moments from the texts and numbers of typed fields.
Main exports: EpochFault, DateFault, Moment.ofInt, Moment.ofDouble, Moment.FieldFault, Moment.ofField
-/
import Countersign.Calendar.Moment
import Countersign.Number.Numeral

namespace Countersign

open Text Numeral

/-!
A typed field knows one layout of a date, a time of hours and minutes at least, and numbers of seconds
or milliseconds from 1970. The years of a field begin with 1, though its layout has a year 0.
-/

/-- Why a number names no moment. -/
inductive EpochFault where
  | tooEarly
  | tooLate
  | notNumber
  | yearZero
deriving DecidableEq, Repr

def EpochFault.message : EpochFault → String
  | tooEarly => "dates before 0000 are not supported as unix timestamps"
  | tooLate => "dates after 9999 are not supported as unix timestamps"
  | notNumber => "NaN values not permitted"
  | yearZero => "year 0 is out of range"

/-- A number of exactly `count` digits at the head of a list, and what follows it. -/
def takeNumber? (count : Nat) (cs : List Char) : Option (Nat × List Char) :=
  let digits := (cs.take count).filterMap asciiDigit?
  if digits.length = count then some (natOfDigits digits, cs.drop count) else none

/-- Why a text is no date by the rules of typed fields. -/
inductive DateFault where
  | tooShort
  | yearDigits
  | separator
  | monthDigits
  | dayDigits
  | monthRange
  | dayRange
  | trailing
  | epoch (fault : EpochFault)
deriving DecidableEq, Repr

namespace DateFault

def message : DateFault → String
  | .tooShort => "input is too short"
  | .yearDigits => "invalid character in year"
  | .separator => "invalid date separator, expected `-`"
  | .monthDigits => "invalid character in month"
  | .dayDigits => "invalid character in day"
  | .monthRange => "month value is outside expected range of 1-12"
  | .dayRange => "day value is outside expected range"
  | .trailing => "unexpected extra characters at the end of the input"
  | .epoch fault => fault.message

end DateFault

namespace Date

def isSeparator (cs : List Char) (index : Nat) : Bool := cs[index]? == some '-'

/-- Read the date that the first ten characters of a text are. -/
def fieldHead (cs : List Char) : Except DateFault Date :=
  let number (from_ count : Nat) := takeNumber? count (cs.drop from_)
  if (String.ofList cs).utf8ByteSize < 10 then .error .tooShort
  else match number 0 4 with
    | none => .error .yearDigits
    | some (year, _) =>
      if !isSeparator cs 4 then .error .separator
      else match number 5 2 with
        | none => .error .monthDigits
        | some (month, _) =>
          if !isSeparator cs 7 then .error .separator
          else match number 8 2 with
            | none => .error .dayDigits
            | some (day, _) =>
              if month = 0 ∨ 12 < month then .error .monthRange
              else if day = 0 ∨ daysInMonth year month < day then .error .dayRange
              else .ok ⟨year, month, day⟩

/-- Read a text that is a date and nothing else. -/
def ofField (cs : List Char) : Except DateFault Date :=
  match fieldHead cs with
  | .error fault => .error fault
  | .ok date => if cs.length = 10 then .ok date else .error .trailing

end Date

namespace Moment

/-- Microseconds from the digits of a fraction, those beyond six not counted. -/
def microsOfDigits (digits : List Nat) : Nat :=
  natOfDigits ((digits.take 6) ++ List.replicate (6 - digits.length) 0)

/-- A two-digit number below a bound. -/
def scanBelow? (bound : Nat) (cs : List Char) : Option (Nat × List Char) :=
  match takeNumber? 2 cs with
  | some (n, rest) => if n < bound then some (n, rest) else none
  | none => none

/-- The offset of a typed field, which ends the text. -/
def fieldOffset? : List Char → Option (Option Int)
  | [] => some none
  | [c] => if c = 'Z' ∨ c = 'z' then some (some 0) else none
  | sign :: rest =>
      if sign = '+' ∨ sign = '-' ∨ sign = '\u2212' then do
        let (hours, rest) ← scanBelow? 24 rest
        let rest := if rest.head? == some ':' then rest.drop 1 else rest
        let (minutes, rest) ← scanBelow? 60 rest
        if rest.isEmpty then
          let size : Int := (hours * 60 + minutes) * 60000000
          some (some (if sign = '+' then size else -size))
        else none
      else none

/-- The time of a typed field: hours and minutes, then seconds, then a fraction of them. -/
def fieldTime? (cs : List Char) : Option (Nat × Option Int) := do
  let (hour, rest) ← scanBelow? 24 cs
  let rest ← if rest.head? == some ':' then some (rest.drop 1) else none
  let (minute, rest) ← scanBelow? 60 rest
  let (second, micros, rest) ←
    match rest with
    | ':' :: rest => do
        let (second, rest) ← scanBelow? 60 rest
        match rest with
        | c :: after =>
            if c = '.' ∨ c = ',' then
              let (digits, rest) := scanDigits after
              if digits.isEmpty then none else some (second, microsOfDigits digits, rest)
            else some (second, 0, rest)
        | [] => some (second, 0, [])
    | _ => some (0, 0, rest)
  let offset ← fieldOffset? rest
  some (((hour * 60 + minute) * 60 + second) * 1000000 + micros, offset)

/-- A moment written as a date, a mark and a time. -/
def ofFieldText? (cs : List Char) : Option Moment :=
  match Date.fieldHead cs with
  | .error _ => none
  | .ok date =>
      match cs.drop 10 with
      | mark :: time =>
          if mark = 'T' ∨ mark = 't' ∨ mark = ' ' ∨ mark = '_' then
            (fieldTime? time).map fun (micros, offset) =>
              ⟨date.toDays * microsPerDay + micros, offset⟩
          else none
      | [] => none

/-- Numbers further than this from zero count milliseconds, others seconds. -/
def secondsLimit : Int := 20000000000

/-- The moments that a number from 1970 may name: the years 0 to 9999. -/
def firstMicros : Int := (Date.mk 0 1 1).toDays * microsPerDay

def lastMicros : Int := (Date.mk 9999 12 31).toDays * microsPerDay + (microsPerDay - 1)

def ofMicros (micros : Int) : Except EpochFault Moment :=
  if micros < firstMicros then .error .tooEarly
  else if lastMicros < micros then .error .tooLate
  else .ok ⟨micros, some 0⟩

/-- The moment that a whole number names. -/
def ofInt (n : Int) : Except EpochFault Moment :=
  ofMicros (if n.natAbs ≤ secondsLimit.natAbs then n * microsPerSecond else n * 1000)

/-- The microseconds of a number of units, the part of a unit being rounded on its own. -/
def microsOfUnits (unit : Nat) (x : Double) : Option Int := do
  let whole ← x.floor?
  let part ← ((x.subInt whole).mulNat unit).nearestAway?
  some (whole * unit + part)

/-- The moment that a double names. -/
def ofDouble (x : Double) : Except EpochFault Moment :=
  let inSeconds := !x.aboveInt secondsLimit && !x.belowInt (-secondsLimit)
  match microsOfUnits (if inSeconds then 1000000 else 1000) x with
  | some micros => ofMicros micros
  | none =>
      .error (if x = .nan then .notNumber else if x.isNegative then .tooEarly else .tooLate)

/-- The largest whole number that a text may spell, behind a minus or not. -/
def lastNumber (negative : Bool) : Nat := if negative then 9223372036854775808 else 9223372036854775807

/-- What a text that spells a number names: a whole number, or one with a point in it. -/
inductive NumberText where
  | whole (outcome : Except EpochFault Moment)
  | pointed (outcome : Except EpochFault Moment)

/-- Read a text that is a number. -/
def readNumberText? (cs : List Char) : Option NumberText :=
  let (negative, body) := splitSign cs
  let (digits, rest) := scanDigits body
  let n := natOfDigits digits
  if lastNumber negative < n then none
  else match rest with
    | [] =>
        if digits.isEmpty then none
        else some (.whole (ofInt (if negative then -(n : Int) else n)))
    | '.' :: _ =>
        (scanDecimal? body).map fun (value, exponent) =>
          .pointed (ofDouble (Double.ofDecimal negative value exponent))
    | _ => none

/-- Why a typed field is no moment: by the rules of dates, or by those of numbers. -/
inductive FieldFault where
  | date (fault : DateFault)
  | epoch (fault : EpochFault)

/-- The first microsecond of the year 1. -/
def firstYear : Int := (Date.mk 1 1 1).toDays * microsPerDay

/-- The same moment, if it lies in a year that fields may name. -/
def inYears (m : Moment) : Except FieldFault Moment :=
  if m.wall < firstYear then .error (.epoch .yearZero) else .ok m

/-- Read a text that is a date, which is its midnight. -/
def ofFieldDate (cs : List Char) : Except FieldFault Moment :=
  match Date.ofField cs with
  | .error fault => .error (.date fault)
  | .ok date => inYears ⟨date.toDays * microsPerDay, none⟩

/-- Read a typed field: a moment, a number, or a date. The fault is the one of the date, and a date may
be a whole number too. -/
def ofField (s : String) : Except FieldFault Moment :=
  let cs := s.toList
  match ofFieldText? cs with
  | some moment => inYears moment
  | none =>
      match readNumberText? cs with
      | some (.whole (.ok moment)) => inYears moment
      | some (.pointed (.ok moment)) => inYears moment
      | some (.whole (.error fault)) => .error (.date (.epoch fault))
      | _ => ofFieldDate cs

/-- The moment that a number in a typed field names. -/
def ofFieldNumber (outcome : Except EpochFault Moment) : Except FieldFault Moment :=
  match outcome with
  | .ok moment => inYears moment
  | .error fault => .error (.epoch fault)

end Moment

end Countersign
