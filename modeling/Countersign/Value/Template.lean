/-
Module: Countersign.Value.Template
Purpose: Messages with places for values.
Main exports: TemplateFault, Template.fill
-/
import Countersign.Value.Display

namespace Countersign.Template

open Text

/-!
A percent sign begins a place: a name in brackets if the values have names, flags, a least width, a
precision and a letter that tells how the next value is written. A star stands for a width or a
precision that is the next value. Two percent signs are one. There must be as many values as places,
but values that have names need not all be used.
-/

/-- Why a template cannot be filled. -/
inductive TemplateFault where
  /-- There are too few or too many values, or one of the wrong kind. -/
  | wrongValues
  /-- A number is beyond what can be written. -/
  | outOfRange
  /-- A width or a precision in the template is beyond what can be written. -/
  | tooBig (what : String)
  /-- A width is beyond the room that there is. -/
  | noRoom
  /-- What is not a number has no integer. -/
  | notNumber
  /-- No value has the name. -/
  | unknownName (name : String)
  /-- The template ends within a name. -/
  | incompleteName
  /-- The template ends within a place. -/
  | incomplete
  /-- No value is written in the way that a letter asks for. -/
  | unsupported (letter index : Nat)
deriving DecidableEq, Repr

def TemplateFault.message : TemplateFault → String
  | wrongValues => "the values do not fit the template"
  | outOfRange => "a number is out of range"
  | tooBig what => s!"{what} too big"
  | noRoom => "there is no room"
  | notNumber => "cannot convert float NaN to integer"
  | unknownName name => s!"no value is named {name}"
  | incompleteName => "incomplete format key"
  | incomplete => "incomplete format"
  | unsupported letter index =>
      let shown := if 31 ≤ letter ∧ letter < 127 then Char.ofNat letter else '?'
      s!"unsupported format character '{shown}' (0x{hexDigits 1 letter}) at index {index}"

/-- How a value is written at a place. -/
structure Place where
  flags : List Char
  width : Nat
  precision : Option Nat
  letter : Nat

/-- Whether a place asks for the longer form of a number. -/
def Place.isLong (place : Place) : Bool := place.flags.contains '#'

def isFlag (c : Char) : Bool := ['-', '+', ' ', '0', '#'].contains c

def isDecimal (c : Char) : Bool := '0' ≤ c && c ≤ '9'

def natOf (cs : List Char) : Nat := cs.foldl (fun n c => 10 * n + (c.toNat - '0'.toNat)) 0

/-- The values that are left to be written, and the one value whose parts are the others, if they are
not given in a row. -/
structure Values where
  next : List Value
  whole : Option Value

namespace Values

/-- The values that a message is given in a row: a single record that is not empty gives names to its
values. -/
def ofList : List Value → Values
  | [.record (field :: fields)] =>
      ⟨[.record (field :: fields)], some (.record (field :: fields))⟩
  | values => ⟨values, none⟩

/-- The one value that a message is given. A record gives names to its values. -/
def ofValue : Value → Values
  | .record fields => ⟨[.record fields], some (.record fields)⟩
  | .list items => ⟨[.list items], some (.list items)⟩
  | v => ⟨[v], none⟩

/-- Take the next value. -/
def take (values : Values) : Except TemplateFault (Value × Values) :=
  match values.next with
  | v :: rest => .ok (v, { values with next := rest })
  | [] => .error .wrongValues

/-- Go to the value of a name. -/
def goTo (values : Values) (name : String) : Except TemplateFault Values :=
  match values.whole with
  | some (.record fields) =>
      match Fields.get? fields name with
      | some v => .ok { values with next := [v] }
      | none => .error (.unknownName name)
  | _ => .error .wrongValues

/-- Whether nothing is left that had to be written. -/
def done (values : Values) : Bool := values.whole.isSome || values.next.isEmpty

end Values

/-- Split off a name up to the bracket that closes it; `depth` brackets within it are open. -/
def splitName? : Nat → List Char → Option (List Char × List Char)
  | _, [] => none
  | depth, c :: rest =>
      if c = ')' then
        match depth with
        | 0 => some ([], rest)
        | depth + 1 => (splitName? depth rest).map fun (name, after) => (c :: name, after)
      else
        (splitName? (if c = '(' then depth + 1 else depth) rest).map fun (name, after) =>
          (c :: name, after)

/-- What a number in a place may be. -/
structure NumberRule where
  what : String
  limit : Nat

/-- Widths have 63 bits. -/
def widthRule : NumberRule := ⟨"width", Double.twoTo 63⟩

/-- Precisions have 31 bits. -/
def precisionRule : NumberRule := ⟨"precision", Double.twoTo 31⟩

/-- Whether a number given as a value is within the limit of a rule. -/
def NumberRule.admits (rule : NumberRule) (n : Int) : Bool :=
  -(rule.limit : Int) ≤ n && n < rule.limit

/-- Read a number of a place, which may be the next value. -/
def readNumber (rule : NumberRule) (cs : List Char) (values : Values) :
    Except TemplateFault (Int × List Char × Values) :=
  match cs with
  | '*' :: rest => do
      match ← values.take with
      | (.int n, values) => if rule.admits n then return (n, rest, values) else .error .outOfRange
      | (.bool b, values) => return (Value.ofBool b, rest, values)
      | _ => .error .wrongValues
  | cs =>
      let n := natOf (cs.takeWhile isDecimal)
      if n < rule.limit then .ok (n, cs.dropWhile isDecimal, values)
      else .error (.tooBig rule.what)

/-- Read a name, if there is one, and go to its value. -/
def readName (cs : List Char) (values : Values) : Except TemplateFault (List Char × Values) :=
  match cs with
  | '(' :: rest =>
      match values.whole, splitName? 0 rest with
      | none, _ => .error .wrongValues
      | some _, none => .error .incompleteName
      | some _, some (name, after) => do return (after, ← values.goTo (String.ofList name))
  | cs => .ok (cs, values)

/-- Read a precision, if there is one. -/
def readPrecision (cs : List Char) (values : Values) :
    Except TemplateFault (Option Nat × List Char × Values) :=
  match cs with
  | '.' :: rest => do
      let (n, after, values) ← readNumber precisionRule rest values
      return (some n.toNat, after, values)
  | cs => .ok (none, cs, values)

/-- Drop the mark of a size, which tells nothing. -/
def dropSize : List Char → List Char
  | c :: rest => if ['h', 'l', 'L'].contains c then rest else c :: rest
  | [] => []

/-- No message is as long as this. -/
def roomLimit : Nat := Double.twoTo 40

/-- Read a place, the percent sign being passed: the place, what follows it and the values left. -/
def readPlace (cs : List Char) (values : Values) :
    Except TemplateFault (Place × List Char × Values) := do
  let (cs, values) ← readName cs values
  let flags := cs.takeWhile isFlag
  let (width, cs, values) ← readNumber widthRule (cs.dropWhile isFlag) values
  if roomLimit ≤ width.natAbs then throw .noRoom
  let flags := if width < 0 then '-' :: flags else flags
  let (precision, cs, values) ← readPrecision cs values
  match splitCode? (dropSize cs) with
  | some (letter, rest) => return (⟨flags, width.natAbs, precision, letter⟩, rest, values)
  | none => .error .incomplete

def spaces (count : Nat) : String := String.ofList (List.replicate count ' ')

def zeroes (count : Nat) : String := String.ofList (List.replicate count '0')

/-- A text in the width of a place. -/
def Place.pad (place : Place) (s : String) : String :=
  let missing := place.width - length s
  if place.flags.contains '-' then s ++ spaces missing else spaces missing ++ s

/-- A sign, the mark of a base and digits in the width of a place. Zeros that fill the width stand in
front of the digits, spaces in front of the sign. -/
def Place.padNumber (place : Place) (negative : Bool) (mark digits : String) : String :=
  let sign :=
    if negative then "-"
    else if place.flags.contains '+' then "+"
    else if place.flags.contains ' ' then " "
    else ""
  let head := sign ++ mark
  if place.flags.contains '0' && !place.flags.contains '-' then
    head ++ zeroes (place.width - head.length - digits.length) ++ digits
  else place.pad (head ++ digits)

/-- A text at a place, cut to the precision. -/
def Place.writeText (place : Place) (s : String) : String :=
  match place.precision with
  | some count => place.pad (take count s)
  | none => place.pad s

/-- The integer that a value is, a fraction being dropped where that is allowed. -/
def integerOf (truncating : Bool) : Value → Except TemplateFault Int
  | .int n => .ok n
  | .bool b => .ok (Value.ofBool b)
  | .float x =>
      if !truncating then .error .wrongValues
      else match x with
        | .finite negative mantissa shift =>
            let size : Int := (mantissa * Double.twoTo shift / Double.unitsPerOne : Nat)
            .ok (if negative then -size else size)
        | .infinite _ => .error .outOfRange
        | .nan => .error .notNumber
  | _ => .error .wrongValues

/-- The double that a value is. -/
def doubleOf : Value → Except TemplateFault Double
  | .int n => (Double.ofInt n).elim (.error .outOfRange) .ok
  | .bool b => (Double.ofInt (Value.ofBool b)).elim (.error .outOfRange) .ok
  | .float x => .ok x
  | _ => .error .wrongValues

/-- The character that a value is, as a text. -/
def characterOf : Value → Except TemplateFault String
  | .int n =>
      if n < 0 ∨ 0x110000 ≤ n then .error .outOfRange else .ok (ofCodes [n.toNat])
  | .bool b => .ok (String.singleton (if b then '\x01' else '\x00'))
  | .text s => if length s = 1 then .ok s else .error .wrongValues
  | _ => .error .wrongValues

/-- Integers are not written with this precision, nor with a greater one. -/
def integerPrecisionLimit : Nat := Double.twoTo 31 - 3

/-- An integer at a place, in a base. -/
def Place.writeInt (place : Place) (base : Nat) (mark : String) (n : Int) :
    Except TemplateFault String :=
  let precision := place.precision.getD 0
  if integerPrecisionLimit ≤ precision then .error .outOfRange
  else
    let digits := String.ofList (Nat.toDigits base n.natAbs)
    .ok (place.padNumber (n < 0) (if place.isLong then mark else "")
      (zeroes (precision - digits.length) ++ digits))

/-- A double at a place, by a function of the number of places. -/
def Place.writeDouble (place : Place) (write : Nat → Double → String) (x : Double) : String :=
  let digits := write (place.precision.getD 6) (if x.isNegative then x.neg else x)
  place.padNumber x.isNegative ""
    (if place.isLong && x.isFinite then Double.withPoint digits else digits)

def capitals (s : String) : String := String.ofList (s.toList.map Char.toUpper)

/-- A value at a place. -/
def Place.write (place : Place) (index : Nat) (v : Value) : Except TemplateFault String :=
  let integer (truncating : Bool) (base : Nat) (mark : String) : Except TemplateFault String := do
    place.writeInt base mark (← integerOf truncating v)
  let double (write : Nat → Double → String) : Except TemplateFault String := do
    return place.writeDouble write (← doubleOf v)
  let general := if place.isLong then Double.generalDigits else Double.general
  match Char.ofNat place.letter with
  | 's' => .ok (place.writeText v.display)
  | 'r' => .ok (place.writeText v.literal)
  | 'a' => .ok (place.writeText (asciiOnly v.literal))
  | 'd' => integer true 10 ""
  | 'i' => integer true 10 ""
  | 'u' => integer true 10 ""
  | 'o' => integer false 8 "0o"
  | 'x' => integer false 16 "0x"
  | 'X' => capitals <$> integer false 16 "0x"
  | 'f' => double Double.fixed
  | 'F' => capitals <$> double Double.fixed
  | 'e' => double Double.scientific
  | 'E' => capitals <$> double Double.scientific
  | 'g' => double general
  | 'G' => capitals <$> double general
  | 'c' => return place.pad (← characterOf v)
  | _ => .error (.unsupported place.letter index)

/-- Fill a template of `count` code points from one of its characters on, for at most `fuel`
characters. -/
def fillFrom (count fuel : Nat) (cs : List Char) (values : Values) :
    Except TemplateFault String :=
  match fuel, cs with
  | 0, _ => .ok ""
  | _, [] => if values.done then .ok "" else .error .wrongValues
  | fuel + 1, '%' :: '%' :: rest => do return "%" ++ (← fillFrom count fuel rest values)
  | fuel + 1, '%' :: rest => do
      let (place, after, values) ← readPlace rest values
      let (v, values) ← values.take
      let written ← place.write (count - (codesOf after).length - 1) v
      return written ++ (← fillFrom count fuel after values)
  | fuel + 1, c :: rest => do return String.singleton c ++ (← fillFrom count fuel rest values)

/-- Fill a template with values. -/
def fillWith (template : String) (values : Values) : Except TemplateFault String :=
  let cs := template.toList
  fillFrom (length template) (cs.length + 1) cs values

/-- Fill a template with values in a row. Without values a message stays as it is. -/
def fill (template : String) (values : List Value) : Except TemplateFault String :=
  if values.isEmpty then .ok template else fillWith template (.ofList values)

end Countersign.Template
