/-
Module: Countersign.Number.Numeral
Purpose: Reading integers and doubles from text.
Main exports: natOfDigits, scanDigits, scanDecimal?, readDouble?, readInteger?
-/
import Countersign.Number.Double
import Countersign.Text.Blank
import Countersign.Text.Digit

namespace Countersign.Numeral

/-!
A numeral is a sign and digits of any script, a low line allowed between two digits. A double may have a
fraction and an exponent, or be spelled `inf`, `infinity` or `nan` in any case. Spaces around a numeral do
not count.
-/

open Countersign.Text

/-- The number that decimal digits spell. -/
def natOfDigits (digits : List Nat) : Nat := digits.foldl (fun value d => 10 * value + d) 0

/-- The digits at the head of a list, and what follows them. -/
def scanDigits : List Char → List Nat × List Char
  | [] => ([], [])
  | c :: rest =>
      match asciiDigit? c with
      | some d =>
          let (digits, after) := scanDigits rest
          (d :: digits, after)
      | none => ([], c :: rest)

/-- The characters of a numeral, without the spaces at its ends and with its digits in the common
script. -/
def normalize (s : String) : List Char :=
  (trim s).toList.map fun c =>
    match digitValue? c with
    | some d => Nat.digitChar d
    | none => c

def isDigit (c : Char) : Bool := (asciiDigit? c).isSome

/-- Drop the low lines, each of which must stand between two digits. -/
def dropLowLines? (previous : Char) : List Char → Option (List Char)
  | [] => if previous = '_' then none else some []
  | c :: rest =>
      if c = '_' then
        if isDigit previous then dropLowLines? c rest else none
      else if previous = '_' ∧ isDigit c = false then none
      else (dropLowLines? c rest).map (c :: ·)

/-- Split off a sign: whether it is a minus, and what follows it. -/
def splitSign : List Char → Bool × List Char
  | '-' :: rest => (true, rest)
  | '+' :: rest => (false, rest)
  | cs => (false, cs)

/-- Read an exponent, which the whole rest must be. -/
def scanExponent? : List Char → Option Int
  | [] => some 0
  | c :: rest =>
      if c = 'e' ∨ c = 'E' then
        let (negative, after) := splitSign rest
        let (digits, end_) := scanDigits after
        if digits.isEmpty ∨ !end_.isEmpty then none
        else
          let size : Int := natOfDigits digits
          some (if negative then -size else size)
      else none

/-- Read an unsigned decimal, which the whole list must be: its digits as one number, and the power of
ten that scales it. -/
def scanDecimal? (cs : List Char) : Option (Nat × Int) :=
  let (whole, rest) := scanDigits cs
  let (fraction, rest) :=
    match rest with
    | '.' :: after => scanDigits after
    | _ => ([], rest)
  if whole.isEmpty && fraction.isEmpty then none
  else (scanExponent? rest).map fun exponent =>
    (natOfDigits (whole ++ fraction), exponent - fraction.length)

/-- Read an unsigned double: a decimal, or the word for what is no decimal. -/
def readUnsigned? (negative : Bool) (body : List Char) : Option Double :=
  let word := String.ofList (body.map Char.toLower)
  if word = "inf" ∨ word = "infinity" then some (.infinite negative)
  else if word = "nan" then some .nan
  else (scanDecimal? body).map fun (digits, exponent) => Double.ofDecimal negative digits exponent

/-- Read a double that has no low lines. A numeral beyond the largest double is an infinity. -/
def readPlainDouble? (cs : List Char) : Option Double :=
  let (negative, body) := splitSign cs
  readUnsigned? negative body

/-- Read a double from a text. -/
def readDouble? (s : String) : Option Double :=
  (dropLowLines? ' ' (normalize s)).bind readPlainDouble?

/-- Read an integer from a text. -/
def readInteger? (s : String) : Option Int :=
  match dropLowLines? ' ' (normalize s) with
  | none => none
  | some cs =>
      let (negative, body) := splitSign cs
      let (digits, rest) := scanDigits body
      if digits.isEmpty || !rest.isEmpty then none
      else
        let size : Int := natOfDigits digits
        some (if negative then -size else size)

end Countersign.Numeral
