/-
Module: Countersign.Calendar.Literal
Purpose: Literals of dates, moments and lengths of time, which name their parts.
Main exports: durationText, Date.literal, Moment.literal
-/
import Countersign.Calendar.Moment

namespace Countersign

/-- A length of time in days, seconds and microseconds, those that are zero left out. -/
def durationText (micros : Int) : String :=
  let parts := [("days", micros / 86400000000), ("seconds", micros / 1000000 % 86400),
    ("microseconds", micros % 1000000)]
  let shown := (parts.filter (·.2 != 0)).map fun (name, n) => s!"{name}={n}"
  "datetime.timedelta(" ++ (if shown.isEmpty then "0" else ", ".intercalate shown) ++ ")"

/-- Numbers between brackets behind a name. -/
def callText (name : String) (arguments : List String) : String :=
  name ++ "(" ++ ", ".intercalate arguments ++ ")"

def Date.numbers (d : Date) : List String := [toString d.year, toString d.month, toString d.day]

/-- The literal of a day. -/
def Date.literal (d : Date) : String := callText "datetime.date" d.numbers

namespace Moment

/-- The literal of an offset. -/
def zoneLiteral (offset : Int) : String :=
  if offset = 0 then "datetime.timezone.utc"
  else callText "datetime.timezone" [durationText offset]

/-- The literal of a moment. Seconds that are zero are left out, and so are microseconds. -/
def literal (m : Moment) : String :=
  let seconds := m.timeOfDay / 1000000
  let micros := m.timeOfDay % 1000000
  let second := seconds % 60
  let rest := if micros ≠ 0 then [second, micros] else if second ≠ 0 then [second] else []
  let clock := [seconds / 3600, seconds / 60 % 60] ++ rest
  let zone := match m.offset with
    | none => []
    | some offset => ["tzinfo=" ++ zoneLiteral offset]
  callText "datetime.datetime" (m.date.numbers ++ clock.map toString ++ zone)

end Moment

end Countersign
