/-
Module: Countersign.Number.Shortest
Purpose: The decimal text of a double: the fewest digits that read back as the same double, and a
  fixed number of places.
Main exports: Double.shortestDigits, Double.NumeralStyle, Double.render, Double.text, Double.fixed,
  Double.scientific, Double.generalDigits, Double.general
-/
import Countersign.Number.Double

namespace Countersign

namespace Double

/-!
The reals that round to a double form an interval around it, closed when its mantissa is even. On the
grid of decimals with a given number of digits only the two neighbours of the double need a look: if
any point of the grid is in the interval, one of them is. The first grid with a hit gives the digits.
-/

/-- A positive decimal `coefficient * 10 ^ exponent`. -/
structure Decimal where
  coefficient : Nat
  exponent : Int
deriving DecidableEq, Repr, Inhabited

/-- The interval of a positive double in quarter units: its ends, its centre, and whether the ends
belong to it. Below a power of two the spacing is halved. -/
structure Interval where
  low : Nat
  centre : Nat
  high : Nat
  closed : Bool

def interval (mantissa shift : Nat) : Interval :=
  let unit := twoTo shift
  let below := if mantissa = twoTo 52 ∧ shift ≠ 0 then 1 else 2
  { low := 4 * mantissa * unit - below * unit
    centre := 4 * mantissa * unit
    high := 4 * mantissa * unit + 2 * unit
    closed := mantissa % 2 = 0 }

/-- Quarter units per one. -/
def quarters : Nat := 4 * unitsPerOne

/-- A grid point `coefficient * 10 ^ exponent` and a quantity of quarter units over one denominator,
so that the two compare as whole numbers. -/
def scalePoint (coefficient : Nat) (exponent : Int) : Nat :=
  if exponent < 0 then coefficient * quarters else coefficient * tenTo exponent.natAbs * quarters

def scaleQuantity (quantity : Nat) (exponent : Int) : Nat :=
  if exponent < 0 then quantity * tenTo exponent.natAbs else quantity

/-- Whether a grid point reads back as the double of the interval. -/
def Interval.holds (range : Interval) (coefficient : Nat) (exponent : Int) : Bool :=
  let point := scalePoint coefficient exponent
  let low := scaleQuantity range.low exponent
  let high := scaleQuantity range.high exponent
  if range.closed then low ≤ point && point ≤ high else low < point && point < high

/-- The point of one grid that reads back, the nearer of the two neighbours when both do. -/
def Interval.onGrid? (range : Interval) (exponent : Int) : Option Decimal :=
  let centre := scaleQuantity range.centre exponent
  let below := centre / scalePoint 1 exponent
  let above := below + 1
  let takeBelow := range.holds below exponent
  let takeAbove := range.holds above exponent
  let nearerBelow :=
    centre - scalePoint below exponent ≤ scalePoint above exponent - centre
  if takeBelow && (nearerBelow || !takeAbove) then some ⟨below, exponent⟩
  else if takeAbove then some ⟨above, exponent⟩
  else none

/-- Drop the zeros at the end of a coefficient, at most `count` of them. -/
def Decimal.trim (count : Nat) (d : Decimal) : Decimal :=
  match count with
  | 0 => d
  | count + 1 =>
      if d.coefficient ≠ 0 ∧ d.coefficient % 10 = 0 then
        Decimal.trim count ⟨d.coefficient / 10, d.exponent + 1⟩
      else d

/-- The decimal exponent of a positive double: it is below `10 ^ magnitude` and not below a tenth. -/
def magnitude (mantissa shift : Nat) : Int :=
  (Nat.toDigits 10 (mantissa * twoTo shift * tenTo 400 / unitsPerOne)).length - 400

/-- The shortest decimal that reads back as a positive double. Seventeen digits always do. -/
def shortestDigits (mantissa shift : Nat) : Decimal :=
  let range := interval mantissa shift
  let top := magnitude mantissa shift
  let found := (List.range 17).findSome? fun fewer =>
    range.onGrid? (top - ((fewer : Nat) + 1 : Int))
  ((found.getD ⟨mantissa, 0⟩).trim 18)

/-- How a numeral is written: the exponents between which it is positional, and the least number of
digits of a written exponent. -/
structure NumeralStyle where
  positionalFrom : Int
  positionalBelow : Int
  exponentDigits : Nat

/-- Numerals are positional from `10 ^ -4` and below `10 ^ 16`, and a whole one keeps `.0`. -/
def numeralStyle : NumeralStyle := ⟨-4, 16, 2⟩

private def zeros (count : Nat) : String := String.ofList (List.replicate count '0')

private def padded (width : Nat) (digits : String) : String := zeros (width - digits.length) ++ digits

/-- Write a positive decimal in a style. -/
def NumeralStyle.write (style : NumeralStyle) (d : Decimal) : String :=
  let digits := Nat.toDigits 10 d.coefficient
  let count : Int := digits.length
  let exponent := count + d.exponent - 1
  if style.positionalFrom ≤ exponent ∧ exponent < style.positionalBelow then
    if exponent < 0 then
      "0." ++ zeros (exponent.natAbs - 1) ++ String.ofList digits
    else if count ≤ exponent + 1 then
      String.ofList digits ++ zeros (exponent + 1 - count).toNat ++ ".0"
    else
      let whole := (exponent + 1).toNat
      String.ofList (digits.take whole) ++ "." ++ String.ofList (digits.drop whole)
  else
    let fraction := digits.drop 1
    String.ofList (digits.take 1)
      ++ (if fraction.isEmpty then "" else "." ++ String.ofList fraction)
      ++ "e" ++ (if exponent < 0 then "-" else "+")
      ++ padded style.exponentDigits (toString exponent.natAbs)

/-- The text of a double in a style. -/
def render (style : NumeralStyle) : Double → String
  | .nan => "nan"
  | .infinite negative => if negative then "-inf" else "inf"
  | .finite negative mantissa shift =>
      let body := if mantissa = 0 then "0.0" else style.write (shortestDigits mantissa shift)
      (if negative then "-" else "") ++ body

/-- The usual text of a double. -/
def text (x : Double) : String := x.render numeralStyle

/-- The text of a double with a fixed number of places, a tie going to the even digit. -/
def fixed (places : Nat) : Double → String
  | .finite negative mantissa shift =>
      let scaled := divNearest (mantissa * twoTo shift * tenTo places) unitsPerOne
      let digits := padded (places + 1) (toString scaled)
      let chars := digits.toList
      let whole := chars.length - places
      (if negative then "-" else "") ++ String.ofList (chars.take whole)
        ++ (if places = 0 then "" else "." ++ String.ofList (chars.drop whole))
  | x => x.text

/-- A positive double rounded to a number of digits, a tie going to the even digit, and the power of ten
of the first digit. -/
def roundedDigits (count : Nat) (mantissa shift : Nat) : Nat × Int :=
  let top := magnitude mantissa shift - 1
  let scale := (count : Int) - 1 - top
  let units := mantissa * twoTo shift
  let coefficient :=
    if scale < 0 then divNearest units (unitsPerOne * tenTo scale.natAbs)
    else divNearest (units * tenTo scale.natAbs) unitsPerOne
  if coefficient = tenTo count then (tenTo (count - 1), top + 1) else (coefficient, top)

/-- The text of a double with one digit before the point and a fixed number of places after it. -/
def scientific (places : Nat) : Double → String
  | .finite negative mantissa shift =>
      let (coefficient, exponent) :=
        if mantissa = 0 then (0, 0) else roundedDigits (places + 1) mantissa shift
      let digits := (padded (places + 1) (toString coefficient)).toList
      (if negative then "-" else "") ++ String.ofList (digits.take 1)
        ++ (if places = 0 then "" else "." ++ String.ofList (digits.drop 1))
        ++ "e" ++ (if exponent < 0 then "-" else "+") ++ padded 2 (toString exponent.natAbs)
  | x => x.text

/-- A numeral without the zeros that end its fraction. -/
def withoutTrailingZeros (s : String) : String :=
  let cs := s.toList
  let mantissa := cs.takeWhile (· != 'e')
  let exponent := cs.dropWhile (· != 'e')
  if mantissa.contains '.' then
    let kept := (mantissa.reverse.dropWhile (· == '0')).dropWhile (· == '.')
    String.ofList (kept.reverse ++ exponent)
  else s

/-- A numeral with a point in its mantissa. -/
def withPoint (s : String) : String :=
  let cs := s.toList
  let mantissa := cs.takeWhile (· != 'e')
  if mantissa.contains '.' then s
  else String.ofList (mantissa ++ '.' :: cs.dropWhile (· != 'e'))

/-- The text of a double with a number of digits, positional unless its exponent is below -4 or not below
that number. -/
def generalDigits (digits : Nat) : Double → String
  | .finite negative mantissa shift =>
      let count := max digits 1
      let exponent := if mantissa = 0 then 0 else (roundedDigits count mantissa shift).2
      let x := Double.finite negative mantissa shift
      if -4 ≤ exponent ∧ exponent < count then x.fixed ((count : Int) - 1 - exponent).toNat
      else x.scientific (count - 1)
  | x => x.text

/-- The same without the zeros that end the fraction. -/
def general (digits : Nat) (x : Double) : String := withoutTrailingZeros (x.generalDigits digits)

end Double

end Countersign
