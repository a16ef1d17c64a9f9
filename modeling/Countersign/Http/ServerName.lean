/-
Module: Countersign.Http.ServerName
Purpose: The names of servers: numeric addresses, names, and names of any script.
Main exports: Http.isShortAddress, Http.isLongAddress, Http.readServerName?
-/
import Countersign.Http.NameCode
import Countersign.Json.Reader
import Countersign.Text.LetterCase
import Countersign.Text.Punycode
import Countersign.Text.Quoted
import Countersign.Text.Utf8
import Countersign.Text.WordCode

namespace Countersign.Http

open Text

/-!
A server is known by four numbers, by an address of eight groups between brackets, or by a name. What
looks like four numbers, whatever stands between them, must be an address. A name in ASCII is written small, and
any other in letters of ASCII, label by label.
-/

/-! ### Escapes -/

/-- The escapes of the bytes of a code point. -/
def escaped (code : Nat) : String :=
  String.join ((utf8BytesOf code).map fun byte =>
    "%" ++ String.ofList ((hexDigits 2 byte).toList.map Char.toUpper))

/-- Whether a code point is that of a letter or a digit of ASCII, or one of some characters. -/
def isPlainCode (others : String) (code : Nat) : Bool :=
  code < 128 && ((Char.ofNat code).isAlphanum || others.toList.contains (Char.ofNat code))

/-- A text with all code points escaped but letters and digits of ASCII and some other characters. -/
def escapeBut (others : String) (s : String) : String :=
  String.join ((codes s).map fun code =>
    if isPlainCode others code then String.singleton (Char.ofNat code) else escaped code)

/-! ### Numeric addresses -/

/-- Whether a text is a number from 0 to 255. -/
def isShortGroup (s : String) : Bool :=
  match s.toList with
  | ['0'] => true
  | cs => cs.all Char.isDigit && cs.head?.any (· != '0') && cs.length ≤ 3 && s.toNat?.any (· ≤ 255)

/-- Whether a text is four such numbers. -/
def isShortAddress (s : String) : Bool :=
  let groups := s.splitOn "."
  groups.length == 4 && groups.all isShortGroup

/-- How far into four numbers a text may be behind one more character: an even count before a number, an
odd count within one. -/
def nextCounts (isDigit : Bool) (count : Nat) : List Nat :=
  (if isDigit then [if count % 2 = 0 then count + 1 else count] else [])
    ++ (if count % 2 = 1 ∧ count < 7 then [count + 1] else [])

/-- Whether a text is four numbers with any characters between them. -/
def looksShort (codes : List Nat) : Bool :=
  (codes.foldl (fun counts code =>
      (counts.flatMap (nextCounts (0x30 ≤ code && code ≤ 0x39))).eraseDups) [0]).contains 7

/-- Whether a text is up to four digits to the base 16. -/
def isLongGroup (s : String) : Bool :=
  let cs := s.toList
  !cs.isEmpty && cs.length ≤ 4 && cs.all fun c => (Json.hexValue? c).isSome

/-- The groups of an address, the last two of which may be written as four numbers. -/
def longGroups? (s : String) : Option (List String) :=
  let groups := s.splitOn ":"
  let last := groups.getLastD ""
  if last.toList.contains '.' then
    if isShortAddress last then some (groups.dropLast ++ ["0", "0"]) else none
  else some groups

/-- The groups in front of a gap or, when they are turned around, behind it. The one at the end of the text may
be missing when it is the only one. -/
def besideGap? (groups : List String) : Option (List String) :=
  match groups with
  | [""] => some []
  | "" :: _ => none
  | groups => some groups

/-- Whether texts are the groups of an address. One gap may stand for groups that are zero. -/
def areLongGroups (groups : List String) : Bool :=
  let inner := (groups.drop 1).dropLast
  let isEmpty (s : String) : Bool := s.isEmpty
  if groups.length < 3 || 9 < groups.length then false
  else match inner.findIdx? isEmpty with
    | none => groups.length == 8 && groups.all isLongGroup
    | some index =>
        match besideGap? (groups.take (index + 1)), besideGap? (groups.drop (index + 2)).reverse with
        | some before, some after =>
            (inner.filter isEmpty).length == 1 && before.length + after.length ≤ 7
              && (before ++ after).all isLongGroup
        | _, _ => false

/-- Whether a text is an address of eight groups, with or without the part of a network behind a percent
sign. -/
def isLongAddress (s : String) : Bool :=
  match s.splitOn "%" with
  | [address] => (longGroups? address).any areLongGroups
  | [address, part] => !part.isEmpty && (longGroups? address).any areLongGroups
  | _ => false

/-! ### Names -/

/-- The characters that a name in ASCII shows as they are. -/
def nameMarks : String := "-._~!$&'()*+,;=\"\x60\x7b\x7d%|\\"

/-- A name in ASCII, written small. -/
def plainName (s : String) : String := escapeBut nameMarks (lower s)

/-- The points between the labels of a name. -/
def labelPoints : List Nat := [0x2e, 0x3002, 0xff0e, 0xff61]

/-- Split code points at those that pass a test. -/
def splitCodes (isPoint : Nat → Bool) (codes : List Nat) : List (List Nat) :=
  codes.foldr (fun code parts =>
    if isPoint code then [] :: parts
    else match parts with
      | part :: rest => (code :: part) :: rest
      | [] => [[code]]) [[]]

/-- The ranges of the scripts that are written from right to left. -/
def leftwardRanges : List (Nat × Nat) :=
  [(0x590, 0x8ff), (0xfb1d, 0xfdff), (0xfe70, 0xfeff), (0x10800, 0x10fff), (0x1e800, 0x1efff)]

def isLeftward (code : Nat) : Bool :=
  leftwardRanges.any fun (first, last) => first ≤ code && code ≤ last

/-- Whether the directions of the code points of a label go together. -/
def isOneWay (label : List Nat) : Bool :=
  !label.any isLeftward
    || (label.head?.any isLeftward
      && label.all fun code => isLeftward code || code == 0x2d || (0x30 ≤ code && code ≤ 0x39))

/-- The first letters of a label that was written in ASCII. -/
def asciiMark : String := "xn--"

/-- No label is longer than this. -/
def maxLabel : Nat := 63

/-- No name is longer than this. -/
def maxName : Nat := 253

def hyphen : Nat := 0x2d

/-- Whether code points may be a label of a name. -/
def isLabel (label : List Nat) : Bool :=
  label.all isNameCode && isOneWay label && label.head?.any isWordLetter
    && label.getLast? != some hyphen && (label.drop 2).take 2 != [hyphen, hyphen]

/-- A label in letters of ASCII. -/
def asciiLabel? (label : List Nat) : Option String :=
  let isAscii := label.all (· < 128)
  let written := if isAscii then ofCodes label else asciiMark ++ punycode label
  let isMarked := isAscii && asciiMark.toList.isPrefixOf written.toList
  if (isMarked || isLabel label) && written.length ≤ maxLabel then some written else none

/-- A name of any script in letters of ASCII. -/
def asciiName? (codes : List Nat) : Option String := do
  let labels := splitCodes labelPoints.contains codes
  let isOpen := labels.length > 1 && labels.getLast? == some []
  let written ← (if isOpen then labels.dropLast else labels).mapM asciiLabel?
  let name := ".".intercalate written
  if name.length ≤ maxName then some (if isOpen then name ++ "." else name) else none

/-- The server that a text names, if it names one. Brackets around an address are left out. -/
def readServerName? (s : String) : Option String :=
  let cs := s.toList
  if cs.isEmpty then some ""
  else if looksShort (codes s) then if isShortAddress s then some s else none
  else if cs.head? == some '[' && cs.getLast? == some ']' then
    let inner := String.ofList (cs.drop 1).dropLast
    if isLongAddress inner then some inner else none
  else if cs.all (·.toNat < 128) then some (plainName s)
  else asciiName? (codes (lower s))

end Countersign.Http
