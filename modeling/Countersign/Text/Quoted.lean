/-
Module: Countersign.Text.Quoted
Purpose: Texts between quotes, with hidden characters written by number.
Main exports: hexDigits, quoted, asciiOnly
-/
import Countersign.Text.Printable
import Countersign.Text.CodePoint

namespace Countersign.Text

/-!
A quoted text stands between single quotes, or between double quotes when it holds a single one and no
double one. The quote and the backslash are escaped by a backslash, hidden characters by number.
-/

/-- A number in hexadecimal digits, at least `width` of them. -/
def hexDigits (width n : Nat) : String :=
  let digits := Nat.toDigits 16 n
  String.ofList (List.replicate (width - digits.length) '0' ++ digits)

/-- The quote that a text is put between. -/
def quoteFor (s : String) : Char :=
  if s.toList.contains '\'' && !s.toList.contains '"' then '"' else '\''

/-- A code point by its number. -/
def numbered (code : Nat) : String :=
  if code < 0x100 then "\\x" ++ hexDigits 2 code
  else if code < 0x10000 then "\\u" ++ hexDigits 4 code
  else "\\U" ++ hexDigits 8 code

/-- How one code point stands between quotes. -/
def quotedCode (quote : Char) (code : Nat) : String :=
  let c := Char.ofNat code
  if c = quote ∨ c = '\\' then String.ofList ['\\', c]
  else if c = '\n' then "\\n"
  else if c = '\r' then "\\r"
  else if c = '\t' then "\\t"
  else if isPrintable code then ofCodes [code]
  else numbered code

/-- A text between quotes. -/
def quoted (s : String) : String :=
  let quote := quoteFor s
  String.singleton quote ++ String.join ((codes s).map (quotedCode quote))
    ++ String.singleton quote

/-- A text with every code point outside ASCII by its number. -/
def asciiOnly (s : String) : String :=
  String.join ((codes s).map fun code => if code < 0x80 then ofCodes [code] else numbered code)

end Countersign.Text
