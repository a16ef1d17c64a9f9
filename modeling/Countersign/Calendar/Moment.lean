/-
Module: Countersign.Calendar.Moment
Purpose: Points of time with or without an offset, and the three ways of writing them.
Main exports: Moment, Moment.utc, Moment.ofClock, Moment.stored, Moment.fullText, Moment.plainText,
  Moment.stampText
-/
import Countersign.Calendar.Date

namespace Countersign

/-!
A moment is what a clock on the wall shows, in microseconds from 1970-01-01T00:00:00, and how far that
clock is ahead of universal time. A moment without an offset is taken to be universal time wherever the
difference matters.
-/

/-- A wall-clock time in microseconds and its offset from universal time, if known. -/
structure Moment where
  wall : Int
  offset : Option Int := none
deriving DecidableEq, Repr, Inhabited

namespace Moment

def microsPerSecond : Int := 1000000

def microsPerDay : Int := 86400 * microsPerSecond

/-- Microseconds of universal time. -/
def utc (m : Moment) : Int := m.wall - m.offset.getD 0

/-- The moment that the clock of the service shows. -/
def ofClock (clock : Int) : Moment := ⟨clock, some 0⟩

/-- A moment as the store keeps it: universal time cut to whole milliseconds, without an offset. -/
def stored (m : Moment) : Moment := ⟨m.utc / 1000 * 1000, none⟩

/-- Storing twice is storing once. -/
@[simp] theorem stored_stored (m : Moment) : m.stored.stored = m.stored := by
  simp only [stored, utc, Option.getD_none, Int.sub_zero, Moment.mk.injEq, and_true]
  omega

def date (m : Moment) : Date := Date.ofDays (m.wall / microsPerDay)

/-- The first microsecond of the calendar. -/
def firstMicro : Int := (Date.mk 1 1 1).toDays * microsPerDay

/-- The first microsecond after the calendar. -/
def endMicro : Int := (Date.mk 10000 1 1).toDays * microsPerDay

/-- Whether a time in microseconds is one of the calendar. -/
def inCalendar (micros : Int) : Bool := firstMicro ≤ micros && micros < endMicro

/-- Whether the offset of a moment moves it out of the calendar. -/
def leavesCalendar (m : Moment) : Bool :=
  m.offset.getD 0 != 0 && !inCalendar (m.wall - m.offset.getD 0)

/-- Microseconds since midnight. -/
def timeOfDay (m : Moment) : Nat := (m.wall % microsPerDay).toNat

/-- Hours, minutes and seconds of a number of seconds, two digits each. -/
def clockText (seconds : Nat) : String :=
  Date.pad 2 (seconds / 3600) ++ ":" ++ Date.pad 2 (seconds / 60 % 60) ++ ":"
    ++ Date.pad 2 (seconds % 60)

/-- Microseconds as six places after a point, nothing when there are none. -/
def fractionText (micros : Nat) : String :=
  if micros = 0 then "" else "." ++ Date.pad 6 micros

/-- Date and time, with a mark between them and without the offset. -/
def localTextBy (mark : String) (m : Moment) : String :=
  m.date.text ++ mark ++ clockText (m.timeOfDay / 1000000) ++ fractionText (m.timeOfDay % 1000000)

/-- Date and time without the offset. -/
def localText (m : Moment) : String := m.localTextBy "T"

def signText (offset : Int) : String := if offset < 0 then "-" else "+"

/-- An offset in hours and minutes. -/
def shortOffset (offset : Int) : String :=
  let minutes := offset.natAbs / 60000000
  signText offset ++ Date.pad 2 (minutes / 60) ++ ":" ++ Date.pad 2 (minutes % 60)

/-- What an offset has beyond hours and minutes: seconds, and microseconds after them. -/
def offsetRest (offset : Int) : String :=
  let micros := offset.natAbs % 60000000
  if micros = 0 then ""
  else ":" ++ Date.pad 2 (micros / 1000000) ++ fractionText (micros % 1000000)

/-- An offset in full, nothing where there is none. -/
def offsetText : Option Int → String
  | none => ""
  | some offset => shortOffset offset ++ offsetRest offset

/-- The moment with its whole offset. -/
def fullText (m : Moment) : String := m.localText ++ offsetText m.offset

/-- The moment as a sentence shows it. -/
def spacedText (m : Moment) : String := m.localTextBy " " ++ offsetText m.offset

/-- An offset in whole seconds, a half going away from zero. -/
def wholeSeconds (offset : Int) : Int :=
  let seconds : Int := ((2 * offset.natAbs + 1000000) / 2000000 : Nat)
  if offset < 0 then -seconds else seconds

/-- The moment as records show it: `Z` for universal time, other offsets in hours and minutes after they
were rounded to seconds. -/
def plainText (m : Moment) : String :=
  m.localText ++
    match m.offset with
    | none => ""
    | some offset =>
        let seconds := wholeSeconds offset
        if seconds = 0 then "Z" else shortOffset (seconds * microsPerSecond)

/-- The moment as a time stamp: without an offset it is universal time, and an offset of no hours and
no minutes ahead is written `Z`. -/
def stampText (m : Moment) : String :=
  let offset := m.offset.getD 0
  let short := shortOffset offset
  m.localText ++ (if short = "+00:00" then "Z" else short) ++ offsetRest offset

end Moment

end Countersign
