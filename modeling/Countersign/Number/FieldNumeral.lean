/-
Module: Countersign.Number.FieldNumeral
Purpose: Reading integers and doubles from the texts of typed fields.
Main exports: FieldInteger, readFieldInteger, readFieldDouble?
-/
import Countersign.Number.Numeral

namespace Countersign.Numeral

open Countersign.Text

/-!
A typed field is stricter than other numerals in its digits, which are those of the common script, and
looser in its low lines. An integer may be written with zeros in front and with a fraction of zeros. A
numeral is read as it stands first, and only if that fails without what it may have besides.
-/

/-- A text without its low lines, which may not stand at its ends nor two in a row. -/
def withoutLowLines? (cs : List Char) : Option (List Char) :=
  let doubled := (cs.zip (cs.drop 1)).any fun (c, next) => c == '_' && next == '_'
  if cs.head? == some '_' || cs.getLast? == some '_' || doubled then none
  else some (cs.filter (· != '_'))

/-- Read a double from a text. One with low lines may have no spaces at its ends. -/
def readFieldDouble? (s : String) : Option Double :=
  match readPlainDouble? (trim s).toList with
  | some x => some x
  | none => (withoutLowLines? s.toList).bind readPlainDouble?

/-- What a text is as an integer. -/
inductive FieldInteger where
  | value (n : Int)
  | tooLong
  | notInteger

/-- Integers of typed fields have no more digits than this. -/
def maxFieldDigits : Nat := 4300

/-- Read an integer that has at most a minus beside its digits, and no zeros in front of them. -/
def readPlainInteger (cs : List Char) : FieldInteger :=
  let (negative, body) :=
    match cs with
    | '-' :: rest => (true, rest)
    | cs => (false, cs)
  let (digits, rest) := scanDigits body
  let size : Int := natOfDigits digits
  if digits.isEmpty then .notInteger
  else if digits.length ≠ 1 ∧ digits.head? = some 0 then .notInteger
  else if maxFieldDigits < digits.length then .tooLong
  else if !rest.isEmpty then .notInteger
  else .value (if negative then -size else size)

/-- Drop the zeros behind a first one, and the low lines among them, up to another digit or a minus; the
last zero stays where neither follows. -/
def dropZeros? (last : Char) : List Char → Option (List Char)
  | [] => some [last]
  | c :: rest =>
      if c = '0' ∨ c = '_' then dropZeros? c rest
      else if ('1' ≤ c ∧ c ≤ '9') ∨ c = '-' then some (c :: rest)
      else if c = '.' then some (last :: c :: rest)
      else none

/-- The numeral without the zeros in front. It begins with a digit or a minus. -/
def withoutZeros? : List Char → Option (List Char)
  | [] => none
  | c :: rest =>
      if c = '0' then dropZeros? c rest
      else if c = '-' ∨ ('1' ≤ c ∧ c ≤ '9') then some (c :: rest)
      else none

/-- The numeral without a plus, and without the zeros in front, behind a minus if there is one. -/
def withoutFront? : List Char → Option (List Char)
  | '+' :: '-' :: _ => none
  | '+' :: rest => withoutZeros? rest
  | '-' :: rest => ('-' :: ·) <$> withoutZeros? rest
  | cs => withoutZeros? cs

/-- The numeral without a fraction of zeros. -/
def withoutFraction (cs : List Char) : List Char :=
  match cs.dropWhile (· != '.') with
  | '.' :: place :: places =>
      if (place :: places).all (· == '0') then cs.takeWhile (· != '.') else cs
  | _ => cs

/-- Read an integer from a text. -/
def readFieldInteger (s : String) : FieldInteger :=
  match readPlainInteger s.toList with
  | .value n => .value n
  | .tooLong => .tooLong
  | .notInteger =>
      match withoutFront? (trim s).toList with
      | none => .notInteger
      | some cs =>
          let cs := withoutFraction cs
          match readPlainInteger ((withoutLowLines? cs).getD cs) with
          | .value n => .value n
          | _ => .notInteger

end Countersign.Numeral
