/-
Module: Countersign.Schema.Checked
Purpose: Checking values against schemas, with all faults in order.
Main exports: Checked, Checked.andThen, Reader, required, optional, nullable, items, texts
-/
import Countersign.Schema.Fault
import Countersign.Number.FieldNumeral
import Countersign.Number.Word
import Countersign.Text.LetterCase

namespace Countersign

/-!
A check accepts a value and gives what was read from it, or refuses it with its faults. Checks of
several fields are combined by `<$>` and `<*>`, which keep the faults of all of them in the order of
the fields.
-/

/-- The outcome of a check. -/
inductive Checked (α : Type) where
  | accepted (value : α)
  | refused (faults : List Fault)
deriving Repr

namespace Checked

def map {α β : Type} (f : α → β) : Checked α → Checked β
  | accepted value => accepted (f value)
  | refused faults => refused faults

/-- Apply what one check gave to what another gave, with the faults of both. -/
def apply {α β : Type} : Checked (α → β) → Checked α → Checked β
  | accepted f, accepted value => accepted (f value)
  | accepted _, refused faults => refused faults
  | refused faults, accepted _ => refused faults
  | refused faults, refused more => refused (faults ++ more)

/-- Go on with what a check gave. -/
def andThen {α β : Type} : Checked α → (α → Checked β) → Checked β
  | accepted value, next => next value
  | refused faults, _ => refused faults

instance : Functor Checked where
  map := map

instance : Pure Checked where
  pure := accepted

instance : Seq Checked where
  seq f value := apply f (value ())

@[simp] theorem map_accepted {α β : Type} (f : α → β) (value : α) :
    f <$> accepted value = accepted (f value) := rfl

@[simp] theorem seq_accepted {α β : Type} (f : α → β) (value : α) :
    (accepted f <*> accepted value) = accepted (f value) := rfl

@[simp] theorem andThen_accepted {α β : Type} (value : α) (next : α → Checked β) :
    (accepted value).andThen next = next value := rfl

/-- The outcome as seen one step further out. -/
def under {α : Type} (step : Step) : Checked α → Checked α
  | accepted value => accepted value
  | refused faults => refused (faults.map (Fault.under step))

@[simp] theorem under_accepted {α : Type} (step : Step) (value : α) :
    (accepted value).under step = accepted value := rfl

/-- Refuse a value for one cause. -/
def fail {α : Type} (cause : FaultCause) (input : Value) : Checked α :=
  refused [⟨cause, [], input⟩]

end Checked

/-- A check of values of one kind. -/
abbrev Reader (α : Type) := Value → Checked α

namespace Reader

open Checked

def any : Reader Value := accepted

def text : Reader String
  | .text s => accepted s
  | v => fail .notText v

/-- Go on with a text, unless it holds half of a surrogate pair. Whatever reads a text and does not only
keep it refuses such a text. -/
def whole {α : Type} (s : String) (checked : Checked α) : Checked α :=
  if Text.hasHalf s then fail .halfText (.text s) else checked

/-- A text of at least `least` characters, and of at most `most` when a bound is given. -/
def boundedText (least : Nat) (most : Option Nat) : Reader String := fun v =>
  (text v).andThen fun s =>
    whole s <|
      if Text.length s < least then fail (.shortText least) v
      else match most with
        | some most => if most < Text.length s then fail (.longText most) v else accepted s
        | none => accepted s

/-- An integer: a truth value counts as 0 or 1, a double must be whole and within 64 bits, a text must
spell an integer. -/
def int : Reader Int
  | .int n => accepted n
  | .bool b => accepted (Value.ofBool b)
  | .float x =>
      if !x.isFinite then fail .notFinite (.float x)
      else match x.toInt? with
        | none => fail .intFraction (.float x)
        | some n =>
            if insideWord n then accepted n else fail .intSize (.float x)
  | .text s =>
      whole s <|
        match Numeral.readFieldInteger s with
        | .value n => accepted n
        | .tooLong => fail .intSize (.text s)
        | .notInteger => fail .intText (.text s)
  | v => fail .notInt v

/-- An integer that is not below a bound, nor above another when it is given. -/
def boundedInt (least : Int) (most : Option Int) : Reader Int := fun v =>
  (int v).andThen fun n =>
    if n < least then fail (.below least) v
    else match most with
      | some most => if most < n then fail (.above most) v else accepted n
      | none => accepted n

/-- The spellings of a truth value, in any case. -/
def boolWords : List (String × Bool) :=
  [("0", false), ("off", false), ("f", false), ("false", false), ("n", false), ("no", false),
    ("1", true), ("on", true), ("t", true), ("true", true), ("y", true), ("yes", true)]

/-- A truth value, 0 or 1, or a spelling of one. -/
def bool : Reader Bool
  | .bool b => accepted b
  | .int n =>
      if n = 0 then accepted false
      else if n = 1 then accepted true
      else if fitsWord n then fail .boolText (.int n)
      else fail .notBool (.int n)
  | .float x =>
      match x.toInt? with
      | some n =>
          if n = 0 then accepted false
          else if n = 1 then accepted true
          else if insideWord n then fail .boolText (.float x)
          else fail .notBool (.float x)
      | none => fail .notBool (.float x)
  | .text s =>
      whole s <|
        match boolWords.lookup (String.ofList (s.toList.map Char.toLower)) with
        | some b => accepted b
        | none => fail .boolText (.text s)
  | v => fail .notBool v

/-- What was read as a moment from an input. -/
def momentFrom (input : Value) : Except Moment.FieldFault Moment → Checked Moment
  | .ok m => accepted m
  | .error (.date fault) => fail (.dateText fault) input
  | .error (.epoch fault) => fail (.epoch fault) input

/-- A moment, a date, a text of either, or a number of seconds or milliseconds from 1970. -/
def moment : Reader Moment
  | .moment m => accepted m
  | .date d => accepted ⟨d.toDays * Moment.microsPerDay, none⟩
  | .text s => whole s (momentFrom (.text s) (Moment.ofField s))
  | .int n =>
      if (Double.ofInt n).isSome then momentFrom (.int n) (Moment.ofFieldNumber (Moment.ofInt n))
      else fail .notMoment (.int n)
  | .float x => momentFrom (.float x) (Moment.ofFieldNumber (Moment.ofDouble x))
  | v => fail .notMoment v

/-- One of a list of named choices, by its exact name. -/
def choice {α : Type} (choices : List (String × α)) : Reader α := fun v =>
  match v with
  | .text s =>
      whole s <|
        match choices.lookup s with
        | some c => accepted c
        | none => fail (.choice (choices.map (·.1))) v
  | _ => fail (.choice (choices.map (·.1))) v

/-- Null, or what another reader reads. -/
def nullable {α : Type} (reader : Reader α) : Reader (Option α)
  | .null => accepted none
  | v => some <$> reader v

/-- The items of a list from an index on. -/
def itemsFrom {α : Type} (reader : Reader α) : Nat → List Value → Checked (List α)
  | _, [] => accepted []
  | index, v :: rest =>
      List.cons <$> (reader v).under (.item index) <*> itemsFrom reader (index + 1) rest

/-- A list. -/
def items {α : Type} (reader : Reader α) : Reader (List α)
  | .list values => itemsFrom reader 0 values
  | v => fail .notList v

/-- A list of at least one item. -/
def someItems {α : Type} (reader : Reader α) : Reader (List α) := fun v =>
  (items reader v).andThen fun found =>
    if found.isEmpty then fail (.fewItems 1 0) v else accepted found

def texts : Reader (List String) := items text

/-- Any record. -/
def record : Reader Fields
  | .record fields => accepted fields
  | v => fail .notRecord v

/-- The fields of a record, each with what was read from its value. A fault names the field by what can be
written of its name. -/
def entriesOf {α : Type} (reader : Reader α) : Fields → Checked (List (String × α))
  | [] => accepted []
  | (name, v) :: rest =>
      (fun value more => (name, value) :: more)
        <$> (reader v).under (.field (Text.withoutHalves name))
        <*> entriesOf reader rest

/-- A record whose values are all of one kind. -/
def entries {α : Type} (reader : Reader α) : Reader (List (String × α))
  | .record fields => entriesOf reader fields
  | v => fail .notRecord v

/-- A record with the fields of a model. -/
def model {α : Type} (name : String) (check : Fields → Checked α) : Reader α
  | .record fields => check fields
  | v => fail (.notModel name) v

end Reader

namespace Fields

open Checked

/-- Read a field that must be there. -/
def required {α : Type} (fields : Fields) (name : String) (reader : Reader α) : Checked α :=
  match fields.get? name with
  | some v => (reader v).under (.field name)
  | none => refused [⟨.missing, [.field name], .record fields⟩]

/-- Read a field that has a default. -/
def optional {α : Type} (fields : Fields) (name : String) (default : α) (reader : Reader α) :
    Checked α :=
  match fields.get? name with
  | some v => (reader v).under (.field name)
  | none => accepted default

/-- Check a record of which every name is looked at. A name that holds half of a surrogate pair is then
the only fault. -/
def wholly {α : Type} (fields : Fields) (checked : Checked α) : Checked α :=
  match fields.names.find? Text.hasHalf with
  | some name => fail .halfText (.text name)
  | none => checked

/-- Refuse every field that is not one of the known ones. -/
def closed (fields : Fields) (known : List String) : Checked Unit :=
  match fields.filter fun (name, _) => !known.contains name with
  | [] => accepted ()
  | extra => refused (extra.map fun (name, v) => ⟨.extra, [.field name], v⟩)

end Fields

end Countersign
