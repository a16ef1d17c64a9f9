/-
Module: Countersign.Store.Term.Arithmetic
Purpose: Operations on numbers in terms.
Main exports: Term.unary, Term.binary, Term.folds, Term.summary
-/
import Countersign.Store.Term.Node

namespace Countersign.Term

/-! ### Numbers -/

/-- The double nearest to a number. -/
def doubleOf : Value → Except FilterFault Double
  | .int n => match Double.ofInt n with
    | some x => .ok x
    | none => .error .tooLarge
  | .bool b => .ok (Double.ofRatio false (Value.ofBool b).toNat 1)
  | .float x => .ok x
  | _ => .error .notUsable

/-- A whole number, a truth value counting as one. -/
def intOf? : Value → Option Int
  | .int n => some n
  | .bool b => some (Value.ofBool b)
  | _ => none

def isNumber : Value → Bool
  | .int _ => true
  | .bool _ => true
  | .float _ => true
  | _ => false

/-- Combine two numbers, as whole ones if both are. -/
def combine (whole : Int → Int → Int) (double : Double → Double → Double) (left right : Value) :
    Except FilterFault Value := do
  match intOf? left, intOf? right with
  | some n, some k => return .int (whole n k)
  | _, _ => return .float (double (← doubleOf left) (← doubleOf right))

def sum (values : List Value) : Except FilterFault Value :=
  values.foldlM (combine (· + ·) Double.add) (.int 0)

/-- The whole number that a double is cut to by a rule for finite ones. -/
def wholeOf (cut : Double → Option Int) (x : Double) : Except FilterFault Value :=
  match x, cut x with
  | .nan, _ => .error .notNumber
  | _, some n => .ok (.int n)
  | _, none => .error .tooLarge

def ceiling? (x : Double) : Option Int := x.neg.floor?.map (-·)

def truncated? (x : Double) : Option Int := if x.isNegative then ceiling? x else x.floor?

def absolute (x : Double) : Double := if x.isNegative then x.neg else x

/-- Operations on one number. -/
def unary : List (String × (Int → Int) × (Double → Except FilterFault Value)) :=
  [("$abs", (fun n => n.natAbs), fun x => .ok (.float (absolute x))),
    ("$ceil", id, wholeOf ceiling?), ("$floor", id, wholeOf Double.floor?),
    ("$trunc", id, wholeOf truncated?)]

/-- Apply an operation on one number. Of null null comes out. -/
def applyUnary (whole : Int → Int) (double : Double → Except FilterFault Value) (node : Node) :
    Meaning := fun scope => do
  match ← node.valueOrNull scope with
  | .null => return .null
  | .float x => double x
  | v => match intOf? v with
    | some n => return .int (whole n)
    | none => throw .notUsable

/-- The quotient of two numbers, which is a double. -/
def quotient (left right : Value) : Except FilterFault Value := do
  match intOf? left, intOf? right with
  | some n, some k =>
      if k = 0 then throw .zeroDivisor
      else match Double.ofRatio ((n < 0) != (k < 0)) n.natAbs k.natAbs with
        | .infinite _ => throw .tooLarge
        | x => return .float x
  | _, _ =>
      let x ← doubleOf left
      let y ← doubleOf right
      if y.isZero then throw .zeroDivisor else return .float (x.div y)

/-- What the division of one double by another leaves, with the sign of the first. -/
def remainder (left right : Value) : Except FilterFault Value := do
  let x ← doubleOf left
  let y ← doubleOf right
  match x.rem? y with
  | some rest => return .float rest
  | none => throw .notDefined

/-- The milliseconds between two moments, or a moment that lies a number of them earlier. -/
def difference (left right : Value) : Except FilterFault Value :=
  match left, right with
  | .moment m, .moment k =>
      if m.offset.isSome != k.offset.isSome then .error .notUsable
      else .ok (.int ((m.utc - k.utc) / 1000))
  | .moment m, .int n => .ok (.moment { m with wall := m.wall - n * 1000 })
  | left, right => combine (· - ·) (fun x y => x.add y.neg) left right

/-- Operations on two numbers. -/
def binary : List (String × (Value → Value → Except FilterFault Value)) :=
  [("$divide", quotient), ("$mod", remainder), ("$subtract", difference)]

/-- Apply an operation on two numbers. With null among them null comes out. -/
def applyBinary (name : String) (operation : Value → Value → Except FilterFault Value) (node : Node) :
    Meaning := fun scope => do
  match node.operand with
  | .list _ =>
      match node.items with
      | [left, right] =>
          let left ← left.valueOrNull scope
          let right ← right.valueOrNull scope
          match left, right with
          | .null, _ => return .null
          | _, .null => return .null
          | left, right => operation left right
      | _ => throw (.term (.notTwo name))
  | v => throw (.term (.operandsNotList name v))

/-- The numbers up to the first null, and whether there was one. -/
def numbersOf : List Value → Except FilterFault (Option (List Value))
  | [] => .ok (some [])
  | .null :: _ => .ok none
  | v :: rest => do
      if isNumber v then return (← numbersOf rest).map (v :: ·) else throw .badTerms

/-- Operations on any number of numbers. -/
def folds : List (String × (List Value → Except FilterFault Value)) :=
  [("$add", sum), ("$multiply", (·.foldlM (combine (· * ·) Double.mul) (.int 1)))]

/-- Apply an operation on any number of numbers. With null among them null comes out. -/
def applyFold (operation : List Value → Except FilterFault Value) (node : Node) : Meaning :=
  fun scope => do
    match node.operand with
    | .list (_ :: _) =>
        match ← numbersOf (← node.items.mapM (·.valueOrNull scope)) with
        | some numbers => operation numbers
        | none => return .null
    | _ => throw .badTerms

/-! ### What several values come to -/

/-- The values that a summary is made of: those of the list that a text stands for, or of several terms. -/
def summarized (node : Node) (scope : Scope) : Except FilterFault (List Value) := do
  match node.operand with
  | .text _ => membersOf (← node.meaning scope)
  | _ => (← node.parts).mapM (·.valueOrNull scope)

/-- Whether all values are of one kind that has an order. -/
def areOrdered (values : List Value) : Bool :=
  values.all isNumber || values.all (·.text?.isSome)
    || values.all fun v => match v with | .moment _ => true | _ => false

/-- The value that no other goes beyond, the first of those. -/
def extreme (beyond : Value → Value → Bool) (values : List Value) : Except FilterFault Value :=
  match values.filter (!Value.null.same ·) with
  | [] => .ok .null
  | [v] => .ok v
  | v :: rest =>
      if areOrdered (v :: rest) then
        .ok (rest.foldl (fun best w => if beyond w best then w else best) v)
      else .error .notUsable

/-- The place at an end of the list that a text stands for. -/
def atEnd (place : Int) (node : Node) (scope : Scope) : Except FilterFault Value := do
  match node.operand with
  | .text _ =>
      match ← node.meaning scope with
      | .list items => return (itemAt? items place).getD .null
      | .text s => return ((itemAt? (Text.letters s) place).map .text).getD .null
      | .record fields => if fields.isEmpty then return .null else throw .fieldMissing
      | v => if v.truthy then throw .notUsable else return .null
  | _ => throw .notUsable

/-- A number, as summaries see one: anything else does not count. -/
def mean (values : List Value) : Except FilterFault Value := do
  let numbers := values.filter isNumber
  if numbers.isEmpty then return .null
  else return .float ((← doubleOf (← sum numbers)).div (Double.ofRatio false numbers.length 1))

def summaries : List String := ["$sum", "$avg", "$min", "$max", "$first", "$last"]

def summary (name : String) (node : Node) : Meaning := fun scope => do
  match name with
  | "$sum" => sum ((← summarized node scope).filter isNumber)
  | "$avg" => mean (← summarized node scope)
  | "$min" => extreme Value.before (← summarized node scope)
  | "$max" => extreme (fun v w => w.before v) (← summarized node scope)
  | "$first" => atEnd 0 node scope
  | _ => atEnd (-1) node scope

end Countersign.Term
