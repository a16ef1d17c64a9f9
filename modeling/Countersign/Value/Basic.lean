/-
Module: Countersign.Value.Basic
Purpose: Values whose kind is known only when they are looked at, and records of them.
Main exports: Value, Fields, Fields.get?, Fields.put, Value.truthy, Value.same, Value.stored,
  Value.plain
-/
import Countersign.Number.Double
import Countersign.Calendar.Moment

namespace Countersign

/-!
Ticket fields, condition operands, request bodies and stored documents are values of this one type.
Integers and doubles stay apart; a record keeps its fields in the order in which they were first put.
-/

/-- A value of any kind. -/
inductive Value where
  | null
  | bool (b : Bool)
  | int (n : Int)
  | float (x : Double)
  | text (s : String)
  | date (d : Date)
  | moment (m : Moment)
  | list (items : List Value)
  | record (fields : List (String × Value))
deriving Repr, Inhabited

/-- Named values, in order. -/
abbrev Fields := List (String × Value)

namespace Fields

/-- The value of the first field of a name. -/
def get? : Fields → String → Option Value
  | [], _ => none
  | (key, value) :: rest, name => if key = name then some value else get? rest name

def has (fields : Fields) (name : String) : Bool := (fields.get? name).isSome

/-- The value of a field, null when there is none. -/
def getD (fields : Fields) (name : String) : Value := (fields.get? name).getD .null

/-- Give a field a value: in its place when it is there, else at the end. -/
def put : Fields → String → Value → Fields
  | [], name, value => [(name, value)]
  | (key, old) :: rest, name, value =>
      if key = name then (key, value) :: rest else (key, old) :: put rest name value

/-- Give several fields values, one after the other. -/
def putAll (fields updates : Fields) : Fields :=
  updates.foldl (fun all (name, value) => all.put name value) fields

/-- The record without a field. -/
def erase (fields : Fields) (name : String) : Fields := fields.filter (·.1 != name)

def names (fields : Fields) : List String := fields.map (·.1)

@[simp] theorem get?_nil (name : String) : get? [] name = none := rfl

@[simp] theorem get?_cons (key name : String) (value : Value) (rest : Fields) :
    get? ((key, value) :: rest) name = if key = name then some value else get? rest name := rfl

/-- A field that was put is read back. -/
theorem get?_put_self (fields : Fields) (name : String) (value : Value) :
    (fields.put name value).get? name = some value := by
  induction fields with
  | nil => simp [put]
  | cons field rest ih =>
      obtain ⟨key, old⟩ := field
      by_cases same : key = name <;> simp [put, same, ih]

/-- Putting one field leaves the others. -/
theorem get?_put_of_ne (fields : Fields) {name other : String} (value : Value)
    (different : name ≠ other) : (fields.put name value).get? other = fields.get? other := by
  induction fields with
  | nil => simp [put, different]
  | cons field rest ih =>
      obtain ⟨key, old⟩ := field
      by_cases same : key = name
      · subst same
        simp [put, different]
      · simp [put, same, ih]

end Fields

namespace Value

/-- Whether a value counts as given: not null, not false, not zero and not empty. -/
def truthy : Value → Bool
  | .null => false
  | .bool b => b
  | .int n => n != 0
  | .float x => !x.isZero
  | .text s => !s.isEmpty
  | .date _ => true
  | .moment _ => true
  | .list items => !items.isEmpty
  | .record fields => !fields.isEmpty

def isBool : Value → Bool
  | .bool _ => true
  | _ => false

def text? : Value → Option String
  | .text s => some s
  | _ => none

/-- A truth value counts as the number 0 or 1. -/
def ofBool (b : Bool) : Int := if b then 1 else 0

/-- Equality of two values that are not both lists or both records: numbers by their exact value,
moments by the time they name. -/
def sameLeaf : Value → Value → Bool
  | .null, .null => true
  | .bool b, .bool c => b == c
  | .bool b, .int n => ofBool b == n
  | .int n, .bool b => n == ofBool b
  | .bool b, .float x => x.eqInt (ofBool b)
  | .float x, .bool b => x.eqInt (ofBool b)
  | .int n, .int k => n == k
  | .int n, .float x => x.eqInt n
  | .float x, .int n => x.eqInt n
  | .float x, .float y => x.eqv y
  | .text s, .text t => s == t
  | .date d, .date e => d == e
  | .moment m, .moment k => m.offset.isSome == k.offset.isSome && m.utc == k.utc
  | _, _ => false

mutual

/-- Equality of values; the fields of records are compared by name. -/
def same : Value → Value → Bool
  | .list xs, .list ys => sameItems xs ys
  | .record fs, .record gs => fs.length == gs.length && sameFields fs gs
  | v, w => sameLeaf v w

def sameItems : List Value → List Value → Bool
  | [], [] => true
  | v :: vs, w :: ws => same v w && sameItems vs ws
  | _, _ => false

def sameFields : List (String × Value) → Fields → Bool
  | [], _ => true
  | (name, v) :: rest, gs =>
      (match gs.get? name with
        | some w => same v w
        | none => false) && sameFields rest gs

end

mutual

/-- The value as the store keeps it: every moment in it as stored moments are. -/
def stored : Value → Value
  | .moment m => .moment m.stored
  | .list items => .list (storedItems items)
  | .record fields => .record (storedFields fields)
  | v => v

def storedItems : List Value → List Value
  | [] => []
  | v :: rest => stored v :: storedItems rest

def storedFields : List (String × Value) → List (String × Value)
  | [] => []
  | (name, v) :: rest => (name, stored v) :: storedFields rest

end

mutual

/-- The value with its dates and moments written out by the given texts. -/
def withDatesAs (moment : Moment → String) : Value → Value
  | .date d => .text d.text
  | .moment m => .text (moment m)
  | .list items => .list (itemsWithDatesAs moment items)
  | .record fields => .record (fieldsWithDatesAs moment fields)
  | v => v

def itemsWithDatesAs (moment : Moment → String) : List Value → List Value
  | [] => []
  | v :: rest => withDatesAs moment v :: itemsWithDatesAs moment rest

def fieldsWithDatesAs (moment : Moment → String) :
    List (String × Value) → List (String × Value)
  | [] => []
  | (name, v) :: rest => (name, withDatesAs moment v) :: fieldsWithDatesAs moment rest

end

/-- The value as records show it. -/
def plain (v : Value) : Value := v.withDatesAs Moment.plainText

/-- A list of texts as a value. -/
def ofTexts (texts : List String) : Value := .list (texts.map .text)

/-- A text that may be missing as a value. -/
def ofText? : Option String → Value
  | some s => .text s
  | none => .null

end Value

end Countersign
