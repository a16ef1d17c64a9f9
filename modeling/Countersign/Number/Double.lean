/-
Module: Countersign.Number.Double
Purpose: Double-precision numbers as exact values, with correct rounding and exact comparison.
Main exports: Double, Double.units, Double.ofRatio, Double.ofInt, Double.ofDecimal, Double.add,
  Double.mul, Double.div, Double.lt, Double.le, Double.eqv, Double.eqInt, Double.toInt?
-/

namespace Countersign

/-!
A finite double is a whole number of units of `2 ^ -1074`, the smallest positive double. Working in
units turns every comparison into a comparison of integers and every rounding into one division, so
that the laws of thresholds are laws of integers.
-/

/-- A double-precision number. A finite one is `± mantissa * 2 ^ shift` units of `2 ^ -1074`, with
`mantissa < 2 ^ 53`, and with `2 ^ 52 ≤ mantissa` unless `shift = 0`. -/
inductive Double where
  | nan
  | infinite (negative : Bool)
  | finite (negative : Bool) (mantissa : Nat) (shift : Nat)
deriving DecidableEq, Repr, Inhabited

namespace Double

/-- A power of two. -/
def twoTo (n : Nat) : Nat := Nat.pow 2 n

/-- A power of ten. -/
def tenTo (n : Nat) : Nat := Nat.pow 10 n

/-- How many units make one. -/
def unitsPerOne : Nat := twoTo 1074

/-- The largest shift of a finite double. -/
def maxShift : Nat := 2045

def zero : Double := .finite false 0 0

/-- The quotient rounded to the nearest whole number, a tie going to the even one. -/
def divNearest (numerator denominator : Nat) : Nat :=
  let quotient := numerator / denominator
  let twice := 2 * (numerator % denominator)
  if twice < denominator then quotient
  else if denominator < twice then quotient + 1
  else if quotient % 2 = 0 then quotient
  else quotient + 1

/-- The double nearest to `± numerator / denominator` units, a tie going to the even mantissa. -/
def roundUnits (negative : Bool) (numerator denominator : Nat) : Double :=
  let whole := numerator / denominator
  let shift := if whole = 0 then 0 else whole.log2 - 52
  let mantissa := divNearest numerator (denominator * twoTo shift)
  let (mantissa, shift) := if mantissa = twoTo 53 then (twoTo 52, shift + 1) else (mantissa, shift)
  if maxShift < shift then .infinite negative else .finite negative mantissa shift

/-- The double nearest to `± numerator / denominator`. -/
def ofRatio (negative : Bool) (numerator denominator : Nat) : Double :=
  roundUnits negative (numerator * unitsPerOne) denominator

/-- A double that is no infinity. -/
def unlessInfinite? : Double → Option Double
  | .infinite _ => none
  | x => some x

/-- The double nearest to an integer, or nothing when the integer is beyond the largest double. -/
def ofInt (n : Int) : Option Double := (ofRatio (n < 0) n.natAbs 1).unlessInfinite?

/-- The double nearest to `± digits * 10 ^ exponent`; beyond the largest double it is an infinity. -/
def ofDecimal (negative : Bool) (digits : Nat) (exponent : Int) : Double :=
  let magnitude : Int := (Nat.toDigits 10 digits).length + exponent
  if digits = 0 ∨ magnitude < -400 then .finite negative 0 0
  else if 400 < magnitude then .infinite negative
  else if exponent < 0 then ofRatio negative digits (tenTo exponent.natAbs)
  else ofRatio negative (digits * tenTo exponent.natAbs) 1

def isNegative : Double → Bool
  | .nan => false
  | .infinite negative => negative
  | .finite negative _ _ => negative

def isFinite : Double → Bool
  | .finite .. => true
  | _ => false

def neg : Double → Double
  | .nan => .nan
  | .infinite negative => .infinite !negative
  | .finite negative mantissa shift => .finite (!negative) mantissa shift

/-- The value of a finite double in units. -/
def units (negative : Bool) (mantissa shift : Nat) : Int :=
  let size : Int := (mantissa * twoTo shift : Nat)
  if negative then -size else size

/-- Numeric order; nothing is less than, or more than, what is not a number. -/
def lt : Double → Double → Bool
  | .nan, _ => false
  | _, .nan => false
  | .infinite left, .infinite right => left && !right
  | .infinite left, .finite .. => left
  | .finite .., .infinite right => !right
  | .finite n m s, .finite n' m' s' => units n m s < units n' m' s'

/-- Numeric equality: the two zeros are equal, and what is not a number equals nothing. -/
def eqv : Double → Double → Bool
  | .infinite left, .infinite right => left == right
  | .finite n m s, .finite n' m' s' => units n m s == units n' m' s'
  | _, _ => false

def le (left right : Double) : Bool := left.lt right || left.eqv right

/-- Equality with an integer, exact on the whole integer range. -/
def eqInt : Double → Int → Bool
  | .finite n m s, k => units n m s == k * unitsPerOne
  | _, _ => false

/-- Whether a double is less than an integer. -/
def belowInt : Double → Int → Bool
  | .nan, _ => false
  | .infinite negative, _ => negative
  | .finite n m s, k => units n m s < k * unitsPerOne

/-- Whether a double is more than an integer. -/
def aboveInt : Double → Int → Bool
  | .nan, _ => false
  | .infinite negative, _ => !negative
  | .finite n m s, k => k * unitsPerOne < units n m s

/-- The integer that a double is, if it is one. -/
def toInt? : Double → Option Int
  | .finite n m s =>
      let value := units n m s
      if value % unitsPerOne = 0 then some (value / unitsPerOne) else none
  | _ => none

def isZero : Double → Bool
  | .finite _ 0 _ => true
  | _ => false

/-- The sum, rounded once. -/
def add : Double → Double → Double
  | .nan, _ => .nan
  | _, .nan => .nan
  | .infinite left, .infinite right => if left == right then .infinite left else .nan
  | .infinite left, .finite .. => .infinite left
  | .finite .., .infinite right => .infinite right
  | .finite n m s, .finite n' m' s' =>
      let total := units n m s + units n' m' s'
      if total = 0 then .finite (n && n') 0 0
      else roundUnits (total < 0) total.natAbs 1

/-- The product, rounded once. -/
def mul : Double → Double → Double
  | .nan, _ => .nan
  | _, .nan => .nan
  | .infinite left, .infinite right => .infinite (left != right)
  | .infinite left, .finite n m _ => if m = 0 then .nan else .infinite (left != n)
  | .finite n m _, .infinite right => if m = 0 then .nan else .infinite (n != right)
  | .finite n m s, .finite n' m' s' =>
      roundUnits (n != n') (m * twoTo s * (m' * twoTo s')) unitsPerOne

/-- The quotient, rounded once. The divisor is no zero. -/
def div : Double → Double → Double
  | .nan, _ => .nan
  | _, .nan => .nan
  | .infinite _, .infinite _ => .nan
  | .infinite left, .finite n _ _ => .infinite (left != n)
  | .finite n _ _, .infinite right => .finite (n != right) 0 0
  | .finite n m s, .finite n' m' s' =>
      roundUnits (n != n') (m * twoTo s * unitsPerOne) (m' * twoTo s')

/-- What a division leaves that is cut toward zero, where there is such a rest. It is exact. -/
def rem? : Double → Double → Option Double
  | .nan, _ => some .nan
  | _, .nan => some .nan
  | .infinite _, _ => none
  | x, .infinite _ => some x
  | .finite n m s, .finite _ m' s' =>
      if m' = 0 then none else some (roundUnits n (m * twoTo s % (m' * twoTo s')) 1)

/-- The whole number at or below a finite double. -/
def floor? : Double → Option Int
  | .finite n m s => some (units n m s / unitsPerOne)
  | _ => none

/-- The difference to a whole number, rounded once. -/
def subInt (x : Double) (k : Int) : Double :=
  match x with
  | .finite n m s =>
      let rest := units n m s - k * unitsPerOne
      roundUnits (rest < 0) rest.natAbs 1
  | x => x

/-- The product with a whole number, rounded once. -/
def mulNat (x : Double) (k : Nat) : Double :=
  match x with
  | .finite n m s => roundUnits n (m * twoTo s * k) 1
  | x => x

/-- The whole number nearest to a finite double, a tie going away from zero. -/
def nearestAway? : Double → Option Int
  | .finite n m s =>
      let size : Int := ((2 * (m * twoTo s) + unitsPerOne) / (2 * unitsPerOne) : Nat)
      some (if n then -size else size)
  | _ => none

/-- The whole number nearest to `scale` times a finite double, a tie going to the even one. -/
def scaledNearest (scale : Nat) : Double → Option Int
  | .finite n m s =>
      let size := divNearest (m * twoTo s * scale) unitsPerOne
      some (if n then -(size : Int) else size)
  | _ => none

end Double

end Countersign
