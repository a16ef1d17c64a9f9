/-
Module: Countersign.Value.Order
Purpose: The order of values of all kinds.
Main exports: Value.kindRank, Value.order?, Value.before
-/
import Countersign.Text.CodePoint
import Countersign.Value.Basic

namespace Countersign.Value

/-!
Values of different kinds have a fixed order among kinds; numbers are one kind. Two lists are told apart
by the first items that differ, then by length, two records by the kinds, names and values of their
fields. Only what is no number has no place in the order of numbers.
-/

/-- The place of a value's kind among kinds. -/
def kindRank : Value → Nat
  | .date _ => 0
  | .null => 5
  | .int _ => 10
  | .float _ => 10
  | .text _ => 15
  | .record _ => 20
  | .list _ => 25
  | .bool _ => 40
  | .moment _ => 45

/-- The order that three tests tell, none when all of them fail. -/
def orderBy (less same more : Bool) : Option Ordering :=
  if less then some .lt else if same then some .eq else if more then some .gt else none

/-- The order of two values of one kind that are neither lists nor records. -/
def orderLeaf : Value → Value → Option Ordering
  | .int n, .int k => some (compare n k)
  | .int n, .float x => orderBy (x.aboveInt n) (x.eqInt n) (x.belowInt n)
  | .float x, .int n => orderBy (x.belowInt n) (x.eqInt n) (x.aboveInt n)
  | .float x, .float y => orderBy (x.lt y) (x.eqv y) (y.lt x)
  | .text s, .text t => some (Text.order s t)
  | .bool b, .bool c => some (compare (ofBool b) (ofBool c))
  | .moment m, .moment k => some (compare m.utc k.utc)
  | _, _ => some .eq

mutual

/-- The order of two values, none when one of them is no number in a place for numbers. -/
def order? : Value → Value → Option Ordering
  | .list xs, .list ys => orderItems xs ys
  | .record fs, .record gs => orderFields fs gs
  | v, w =>
      if v.kindRank = w.kindRank then orderLeaf v w else some (compare v.kindRank w.kindRank)

def orderItems : List Value → List Value → Option Ordering
  | [], [] => some .eq
  | [], _ :: _ => some .lt
  | _ :: _, [] => some .gt
  | v :: vs, w :: ws => if v.same w then orderItems vs ws else order? v w

def orderFields : List (String × Value) → List (String × Value) → Option Ordering
  | [], [] => some .eq
  | [], _ :: _ => some .lt
  | _ :: _, [] => some .gt
  | (name, v) :: fs, (other, w) :: gs =>
      if v.kindRank ≠ w.kindRank then some (compare v.kindRank w.kindRank)
      else if name ≠ other then some (Text.order name other)
      else if v.same w then orderFields fs gs
      else order? v w

end

/-- Whether a value comes before another. -/
def before (v w : Value) : Bool := order? v w == some .lt

end Countersign.Value
