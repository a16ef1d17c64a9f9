/-
Module: Countersign.Text.Utf8
Purpose: Texts from bytes: UTF-8 with marks for what is none, UTF-16 and UTF-32.
Main exports: utf8Bytes, decodeUtf8, throughBytes?, Encoding, Encoding.guess, Encoding.decode?
-/
import Countersign.Text.CodePoint

namespace Countersign.Text

/-!
A text is made of bytes by one of three encodings. Where UTF-8 is expected, each longest piece that begins
a character and does not end it becomes one replacement character. The encoding of a text that begins
with two characters of ASCII shows in where its first zero bytes are.
-/

/-- The bytes of a code point that is a character. -/
def utf8BytesOf (code : Nat) : List Nat :=
  (String.utf8EncodeChar (Char.ofNat code)).map UInt8.toNat

/-- The bytes of a text that holds no half of a pair. -/
def utf8Bytes (s : String) : List Nat := (codes s).flatMap utf8BytesOf

/-- The bounds of a byte. -/
abbrev ByteRange := Nat × Nat

def continuing : ByteRange := (0x80, 0xbf)

/-- The bounds of the bytes that follow a first byte, if a character begins with it. -/
def followers? (first : Nat) : Option (List ByteRange) :=
  if first < 0x80 then some []
  else if first < 0xc2 then none
  else if first < 0xe0 then some [continuing]
  else if first = 0xe0 then some [(0xa0, 0xbf), continuing]
  else if first = 0xed then some [(0x80, 0x9f), continuing]
  else if first < 0xf0 then some [continuing, continuing]
  else if first = 0xf0 then some [(0x90, 0xbf), continuing, continuing]
  else if first < 0xf4 then some [continuing, continuing, continuing]
  else if first = 0xf4 then some [(0x80, 0x8f), continuing, continuing]
  else none

/-- The bytes at the head of a list that lie within bounds, up to the first that does not. -/
def takeWithin : List ByteRange → List Nat → List Nat
  | (least, most) :: ranges, b :: rest =>
      if least ≤ b ∧ b ≤ most then b :: takeWithin ranges rest else []
  | _, _ => []

/-- The code of a character from its first byte and those that follow. -/
def codeFrom (first : Nat) (tail : List Nat) : Nat :=
  let low := if tail.isEmpty then first else first % Nat.pow 2 (6 - tail.length)
  tail.foldl (fun code b => code * 64 + b % 64) low

/-- Read bytes as UTF-8, for at most `fuel` characters. `spoilt` tells what stands for bytes that are no
character. -/
def decodeUtf8From (spoilt : List Nat → List Nat) : Nat → List Nat → List Nat
  | 0, _ => []
  | _, [] => []
  | fuel + 1, first :: rest =>
      match followers? first with
      | none => spoilt [first] ++ decodeUtf8From spoilt fuel rest
      | some ranges =>
          let tail := takeWithin ranges rest
          let codes :=
            if tail.length = ranges.length then [codeFrom first tail] else spoilt (first :: tail)
          codes ++ decodeUtf8From spoilt fuel (rest.drop tail.length)

/-- The code point that stands where bytes are no character. -/
def replacement : Nat := 0xfffd

/-- Read bytes as UTF-8. -/
def decodeUtf8 (bytes : List Nat) : String :=
  ofCodes (decodeUtf8From (fun _ => [replacement]) bytes.length bytes)

/-! ### Texts of any bytes -/

/-- The half of a pair that stands for the byte 0. The halves that follow stand for the other bytes, and
only those from 0x80 on do so. -/
def byteHalf : Nat := 0xdc00

/-- The bytes of a code point where halves of pairs stand for bytes. -/
def looseBytesOf? (code : Nat) : Option (List Nat) :=
  if !isHalf code then some (utf8BytesOf code)
  else if byteHalf + 0x80 ≤ code ∧ code ≤ byteHalf + 0xff then some [code - byteHalf]
  else none

/-- The text that is read from the bytes of a text, halves of pairs standing for bytes that are no
character, or nothing when a half stands for no byte. -/
def throughBytes? (s : String) : Option String := do
  if !hasHalf s then return s
  let bytes := (← (codes s).mapM looseBytesOf?).flatten
  return ofCodes (decodeUtf8From (List.map (byteHalf + ·)) bytes.length bytes)

/-! ### Texts in an encoding that is to be found out -/

inductive Encoding where
  | utf8
  | utf16 (bigEndian : Bool)
  | utf32 (bigEndian : Bool)
deriving DecidableEq, Repr

namespace Encoding

/-- The encoding that the zeros among the first bytes of a text in ASCII tell. -/
def guess : List Nat → Encoding
  | [a, b] => if a = 0 then utf16 true else if b = 0 then utf16 false else utf8
  | a :: b :: c :: d :: _ =>
      if a = 0 then (if b = 0 then utf32 true else utf16 true)
      else if b = 0 then (if c = 0 ∧ d = 0 then utf32 false else utf16 false)
      else utf8
  | _ => utf8

/-- The number that two bytes are. -/
def pairCode (bigEndian : Bool) (a b : Nat) : Nat := if bigEndian then a * 256 + b else b * 256 + a

/-- The units of two bytes each, if there are whole ones only. -/
def pairs? (bigEndian : Bool) : List Nat → Option (List Nat)
  | [] => some []
  | [_] => none
  | a :: b :: rest => (pairs? bigEndian rest).map (pairCode bigEndian a b :: ·)

/-- The code points of UTF-16 units. -/
def joinUnits : List Nat → List Nat
  | [] => []
  | [unit] => [unit]
  | high :: low :: rest =>
      if 0xd800 ≤ high ∧ high < 0xdc00 ∧ 0xdc00 ≤ low ∧ low < 0xe000 then
        (0x10000 + (high - 0xd800) * 0x400 + (low - 0xdc00)) :: joinUnits rest
      else high :: joinUnits (low :: rest)

/-- The code points of units of four bytes each, if there are whole ones only and none is too big. -/
def joinQuads? (bigEndian : Bool) : List Nat → Option (List Nat)
  | [] => some []
  | first :: second :: rest =>
      let n := if bigEndian then first * 65536 + second else second * 65536 + first
      if n < 0x110000 then (joinQuads? bigEndian rest).map (n :: ·) else none
  | _ => none

/-- Read bytes in an encoding. UTF-8 is taken to be well formed. -/
def decode? (encoding : Encoding) (bytes : List Nat) : Option String :=
  match encoding with
  | utf8 => some (decodeUtf8 bytes)
  | utf16 bigEndian => (pairs? bigEndian bytes).map fun units => ofCodes (joinUnits units)
  | utf32 bigEndian =>
      ((pairs? bigEndian bytes).bind (joinQuads? bigEndian)).map ofCodes

end Encoding

end Countersign.Text
