/-
Module: Countersign.Service.Basic
Purpose: What the service holds while it runs, and the steps that commands are built from.
Main exports: ServiceState, Service, Service.now, Service.newId, Service.note, Service.findOne,
  Service.select, Service.insert, Service.update, Service.remove
-/
import Countersign.Store.Basic
import Countersign.Problem.Refusal
import Countersign.Journal
import Countersign.Text.Quoted

namespace Countersign

/-!
A command reads the clock, takes ids, writes to the journal and calls the store. Every call to the store
is one atomic step, and fails as a whole while the store is down. What a command did before it failed
stays done.
-/

/-- How far the service is connected. -/
structure Link where
  client : Bool
  database : Bool
deriving DecidableEq, Repr

/-- What the service holds while it runs. The clock counts microseconds from 1970, the counters tell how
many ids of each kind have been taken, and the journal has its latest entry first. -/
structure ServiceState where
  store : Store := {}
  clock : Int
  counters : List (String × Nat) := []
  down : Bool := false
  link : Link := ⟨true, true⟩
  correlation : Option String := none
  journal : List Entry := []
deriving Repr

/-- A part of a command: it may fail, and what it did before stays done. -/
abbrev Service (α : Type) := ExceptT Failure (StateM ServiceState) α

namespace Service

/-- Do a part of a command and tell whether it failed. -/
def attempt {α : Type} (part : Service α) : Service (Except Failure α) :=
  ExceptT.mk ((fun outcome => .ok outcome) <$> part.run)

def refuse {α : Type} (refusal : Refusal) : Service α := throw (.refused refusal)

/-- The value that a check accepted; a refused one fails the command. -/
def accept {α : Type} : Checked α → Service α
  | .accepted value => pure value
  | .refused faults => throw (.malformed faults)

def now : Service Moment := return Moment.ofClock (← get).clock

/-- The clock in seconds. -/
def seconds : Service Double := do
  let clock := (← get).clock
  return Double.ofRatio (clock < 0) clock.natAbs 1000000

/-- Let time pass, if the clock then still shows a time of the calendar. -/
def waitWithin (micros : Int) : Service Unit := do
  let clock := (← get).clock + micros
  if Moment.inCalendar clock then modify fun s => { s with clock }
  else throw .beyondCalendar

/-- Write to the journal. -/
def note (level : Level) (source : Source) (message : String) (details : Fields := [])
    (exception : Bool := false) : Service Unit :=
  modify fun s =>
    { s with journal :=
        { time := Moment.ofClock s.clock, level := .text level.name, source := .text source.name, message,
          correlation := .ofText? s.correlation, details, exception := .bool exception } :: s.journal }

/-! ### Ids -/

/-- Take the next number of a kind of ids. -/
def takeNumber (kind : String) : Service Nat := do
  let s ← get
  let next := (s.counters.lookup kind).getD 0 + 1
  set { s with counters := (kind, next) :: s.counters.filter (·.1 != kind) }
  return next

/-- An id of a kind with a number. -/
def idText (kind : String) (number : Nat) : String :=
  let digits := Text.hexDigits 12 number
  if kind.isEmpty then digits else kind ++ "-" ++ digits

/-- A new id of a kind. -/
def newId (kind : String) : Service String := return idText kind (← takeNumber kind)

/-- A date and a time in digits alone. -/
def compactTime (m : Moment) : String :=
  let d := m.date
  let seconds := m.timeOfDay / 1000000
  Date.pad 4 d.year ++ Date.pad 2 d.month ++ Date.pad 2 d.day ++ Date.pad 2 (seconds / 3600)
    ++ Date.pad 2 (seconds / 60 % 60) ++ Date.pad 2 (seconds % 60)

/-- A new id for the entries that one request leaves in the journal. -/
def newCorrelationId : Service String := do
  let time ← now
  return "COR-" ++ compactTime time ++ "-" ++ Text.hexDigits 8 (← takeNumber "COR")

/-! ### Calls to the store -/

/-- The store, when it can be reached. -/
def reach : Service Store := do
  let s ← get
  if s.down then throw .storeDown else return s.store

/-- What the store found, or the failure to apply a filter. -/
def found {α : Type} : Except FilterFault α → Service α
  | .ok value => return value
  | .error fault => throw (.store (.filter fault))

/-- The first document of a table that meets a query. -/
def findOne (collection : Collection) (query : Query) : Service (Option Document) := do
  found (((← reach).table collection).find? query)

/-- The documents of a table that meet a query, sorted by keys. -/
def select (collection : Collection) (query : Query) (keys : List SortKey) :
    Service (List Document) := do
  found (((← reach).table collection).select query keys)

/-- How many documents of a table meet a query. -/
def count (collection : Collection) (query : Query) : Service Nat := do
  return (← found (((← reach).table collection).filter query)).length

/-- Replace a table. -/
def write (collection : Collection) (table : Table) : Service Unit :=
  modify fun s => { s with store := s.store.setTable collection table }

/-- Insert a document, and tell whether its keys were free. -/
def insert (collection : Collection) (document : Document) : Service Bool := do
  let store ← reach
  let outcome := (store.table collection).insert collection.uniqueKeys document
  write collection outcome.table
  match outcome.fault with
  | none => return true
  | some .keyTaken => return false
  | some fault => throw (.store fault)

/-- Change the first document that meets a query, and give it as it was and as it then is. A change that
is refused fails, and what it had changed before stays changed. -/
def change (collection : Collection) (query : Query) (change : Change) :
    Service (Option (Document × Document)) := do
  let store ← reach
  match ← found ((store.table collection).updateFirst collection.uniqueKeys query change) with
  | .changed before after table =>
      write collection table
      return some (before, after)
  | .unmet => return none
  | .refused fault table =>
      write collection table
      throw (.store fault)

/-- Change the first document that meets a query, and give it as it then is. -/
def update (collection : Collection) (query : Query) (change : Change) :
    Service (Option Document) := do
  return (← Service.change collection query change).map (·.2)

/-- Remove the first document that meets a query, and tell whether there was one. -/
def remove (collection : Collection) (query : Query) : Service Bool := do
  let store ← reach
  match ← found ((store.table collection).removeFirst? query) with
  | some table =>
      write collection table
      return true
  | none => return false

end Service

end Countersign
