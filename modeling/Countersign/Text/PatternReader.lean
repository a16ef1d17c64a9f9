/-
Module: Countersign.Text.PatternReader
Purpose: Reading patterns from text.
Main exports: Pattern.Manner, Pattern.Fault, Pattern.read
-/
import Countersign.Number.Numeral
import Countersign.Text.LetterCase
import Countersign.Text.Pattern
import Countersign.Text.WordCode

namespace Countersign.Text.Pattern

/-!
A pattern is written as the characters that it is found for. Some stand for others: a stroke gives the
character behind it another meaning, brackets hold a set of characters, parentheses a group, and a star, a
plus sign, a question mark or numbers between braces repeat what is in front of them. A group may begin with
a question mark and tell how it is to be read. In the spaced manner blanks and remarks do not count.
-/

/-- How a pattern is to be read. -/
structure Manner where
  /-- Cases of letters are not told apart. -/
  anyCase : Bool := false
  /-- Lines begin and end where texts do. -/
  byLines : Bool := false
  /-- A point is found for the end of a line as well. -/
  dotIsAll : Bool := false
  /-- Blanks and remarks do not count. -/
  spaced : Bool := false
  /-- Kinds of characters and cases are those of ASCII. -/
  ascii : Bool := false
  /-- Kinds of characters and cases are those of every script, as the pattern itself tells. -/
  allScripts : Bool := false
  /-- Nothing may be repeated. -/
  plain : Bool := false
deriving DecidableEq, Repr

/-- Why a text is no pattern. -/
inductive Fault where
  /-- It is not well formed. -/
  | wrong
  /-- It asks for more repetitions than can be counted. -/
  | tooMany
  /-- It asks to be read in two ways that exclude each other. -/
  | manner
deriving DecidableEq, Repr

namespace Manner

/-- The letters that stand for a part of a manner. -/
def letters : List Char := ['i', 'm', 's', 'x', 'a', 'u', 't']

/-- A manner with a part of it turned on or off. -/
def turn (on : Bool) (manner : Manner) (letter : Char) : Manner :=
  match letter with
  | 'i' => { manner with anyCase := on }
  | 'm' => { manner with byLines := on }
  | 's' => { manner with dotIsAll := on }
  | 'x' => { manner with spaced := on }
  | 'a' => { manner with ascii := on }
  | 'u' => { manner with allScripts := on }
  | 't' => { manner with plain := on }
  | _ => manner

/-- The manner of a group by the letters that it turns on and off. -/
def ofGroup (manner : Manner) (on off : List Char) : Manner :=
  let inside := off.foldl (turn false) (on.foldl (turn true) manner)
  { inside with ascii := if on.contains 'u' then false else inside.ascii }

/-- The letters of options that stand for a part of a manner; the others are passed over. -/
def optionLetters (options : String) : List Char := options.toList.filter ['i', 'm', 'x', 's'].contains

/-- The manner that letters ask for. -/
def ofLetters (letters : List Char) : Manner := letters.foldl (turn true) {}

/-! ### What single code points are tested for -/

/-- The lower case of a letter of ASCII. -/
def asciiLowered (code : Nat) : Nat := if 0x41 ≤ code ∧ code ≤ 0x5a then code + 0x20 else code

/-- The upper case of a letter of ASCII. -/
def asciiUppered (code : Nat) : Nat := if 0x61 ≤ code ∧ code ≤ 0x7a then code - 0x20 else code

/-- The test for one code point. -/
def literal (manner : Manner) (code : Nat) : Nat → Bool :=
  if !manner.anyCase then (code == ·)
  else if manner.ascii then fun other => asciiLowered code == asciiLowered other
  else fun other => caseClass code == caseClass other

/-- The test for the code points between two. -/
def range (manner : Manner) (first last : Nat) : Nat → Bool :=
  let within (code : Nat) : Bool := first ≤ code && code ≤ last
  if !manner.anyCase then within
  else if manner.ascii then fun code =>
    within code || within (asciiLowered code) || within (asciiUppered code)
  else fun code => (allCases code).any within

/-- Whether two code points count as the same where a group is found again. -/
def same (manner : Manner) (left right : Nat) : Bool :=
  if !manner.anyCase then left == right
  else if manner.ascii then asciiLowered left == asciiLowered right
  else lowered left == lowered right

def isAsciiDigit (code : Nat) : Bool := 0x30 ≤ code && code ≤ 0x39

def isDigit (manner : Manner) (code : Nat) : Bool :=
  if manner.ascii then isAsciiDigit code else (digitOfCode? code).isSome

def isGap (manner : Manner) (code : Nat) : Bool :=
  if manner.ascii then code == 0x20 || (0x9 ≤ code && code ≤ 0xd) else isBlankCode code

def isWord (manner : Manner) (code : Nat) : Bool :=
  code == '_'.toNat ||
    if manner.ascii then isAsciiDigit code || (0x61 ≤ asciiLowered code && asciiLowered code ≤ 0x7a)
    else isWordLetter code

/-- The kinds of characters that a letter behind a stroke stands for. -/
def kind? (manner : Manner) : Char → Option (Nat → Bool)
  | 'd' => some manner.isDigit
  | 'D' => some fun code => !manner.isDigit code
  | 's' => some manner.isGap
  | 'S' => some fun code => !manner.isGap code
  | 'w' => some manner.isWord
  | 'W' => some fun code => !manner.isWord code
  | _ => none

/-! ### What places are tested for -/

def isLineEnd (code : Nat) : Bool := code == '\n'.toNat

def atStart (manner : Manner) (place : Place) : Bool :=
  match place.behind with
  | [] => true
  | code :: _ => manner.byLines && isLineEnd code

def atEnd (manner : Manner) (place : Place) : Bool :=
  match place.ahead with
  | [] => true
  | [code] => isLineEnd code
  | code :: _ => manner.byLines && isLineEnd code

/-- Whether a place has a word on one side only. -/
def isEdge (manner : Manner) (place : Place) : Bool :=
  (place.behind.head?.any manner.isWord) != (place.ahead.head?.any manner.isWord)

/-- Whether a place is not in an empty text, in which there are neither edges nor other places. -/
def isInText (place : Place) : Bool := !(place.behind.isEmpty && place.ahead.isEmpty)

/-- The test of places that a letter behind a stroke stands for. -/
def mark? (manner : Manner) : Char → Option (Place → Bool)
  | 'A' => some fun place => place.behind.isEmpty
  | 'Z' => some fun place => place.ahead.isEmpty
  | 'b' => some fun place => isInText place && manner.isEdge place
  | 'B' => some fun place => isInText place && !manner.isEdge place
  | _ => none

end Manner

/-! ### Tokens -/

/-- A character of a pattern by itself, or with a stroke in front of it. -/
inductive Token where
  | plain (code : Nat)
  | stroke (code : Nat)
deriving DecidableEq, Repr

namespace Token

def strokeCode : Nat := '\\'.toNat

/-- The tokens of a text, unless a stroke ends it. -/
def ofCodes? : List Nat → Option (List Token)
  | [] => some []
  | [code] => if code = strokeCode then none else some [.plain code]
  | code :: next :: rest =>
      if code = strokeCode then (ofCodes? rest).map (.stroke next :: ·)
      else (ofCodes? (next :: rest)).map (.plain code :: ·)

/-- The character that a token is, when it is one of ASCII without a stroke. -/
def char? : Token → Option Char
  | .plain code => if code < 128 then some (Char.ofNat code) else none
  | .stroke _ => none

/-- The code points that a token was read from. -/
def codes : Token → List Nat
  | .plain code => [code]
  | .stroke code => [strokeCode, code]

end Token

/-! ### The state of reading -/

/-- The least and the greatest number of code points that a part can be found for. -/
structure Width where
  least : Nat
  most : Nat
deriving DecidableEq, Repr

namespace Width

/-- No width is greater than this. -/
def cap : Nat := Nat.pow 2 64

def zero : Width := ⟨0, 0⟩

def single : Width := ⟨1, 1⟩

def add (a b : Width) : Width := ⟨min (a.least + b.least) cap, min (a.most + b.most) cap⟩

/-- The width of either of two parts. -/
def either (a b : Width) : Width := ⟨min a.least b.least, max a.most b.most⟩

def times (width : Width) (least : Nat) (most : Option Nat) : Width :=
  let greatest := match most with
    | some most => width.most * most
    | none => if width.most = 0 then 0 else cap
  ⟨min (width.least * least) cap, min greatest cap⟩

end Width

/-- What is known while a pattern is read: the tokens that are left, the manner of the whole, how many
groups were begun, their names and the widths of those that ended, the groups that were begun in front of the
part that looks back, the groups that a part asked for, and whether a part is well formed and still none. -/
structure Progress where
  rest : List Token
  manner : Manner
  begun : Nat := 0
  names : List (List Nat × Nat) := []
  widths : List (Nat × Width) := []
  lookingBack : Option Nat := none
  asked : List Nat := []
  flawed : Bool := false

/-- Reading a part of a pattern. -/
abbrev Reading := StateT Progress (Except Fault)

def fail {α : Type} : Reading α := throw .wrong

/-- Remember that a part is none. Other faults of the pattern count first. -/
def flaw : Reading Unit := modify fun progress => { progress with flawed := true }

/-- The next token, which stays. -/
def peek? : Reading (Option Token) := return (← get).rest.head?

/-- The next token. -/
def take? : Reading (Option Token) := do
  let token ← peek?
  modify fun progress => { progress with rest := progress.rest.drop 1 }
  return token

/-- The next token, which must be there. -/
def takeOne : Reading Token := do
  match ← take? with
  | some token => return token
  | none => fail

/-- Take a character if it comes next. -/
def takes (c : Char) : Reading Bool := do
  if (← peek?) == some (.plain c.toNat) then
    let _ ← take?
    return true
  else return false

/-- Take a character, which must come next. -/
def ensure (c : Char) : Reading Unit := do
  if !(← takes c) then fail

/-- Take up to so many characters that pass a test. -/
def takeWhile (test : Char → Bool) : Nat → Reading (List Char)
  | 0 => return []
  | count + 1 => do
      match (← peek?).bind Token.char? with
      | some c =>
          if test c then
            let _ ← take?
            return c :: (← takeWhile test count)
          else return []
      | none => return []

/-- Take all characters that pass a test. -/
def takeAll (test : Char → Bool) : Reading (List Char) := do takeWhile test (← get).rest.length

/-- Take all up to a character, and the character, which must come. -/
def takeUntil (stop : Char) : Reading (List Token) := do
  let rest := (← get).rest
  let isOther (token : Token) : Bool := token != .plain stop.toNat
  modify fun progress => { progress with rest := (rest.dropWhile isOther).drop 1 }
  if (rest.dropWhile isOther).isEmpty then fail else return rest.takeWhile isOther

/-- Take the name of a group up to a character. -/
def takeName (stop : Char) : Reading (List Nat) := do
  let name := (← takeUntil stop).flatMap Token.codes
  if name.isEmpty then fail else return name

/-! ### Parts -/

/-- What may be done with a part: places are not repeated, nor are repetitions. -/
inductive PartKind where
  | place
  | repetition
  | other
deriving DecidableEq, Repr

/-- A part of a pattern. -/
structure Part where
  pattern : Pattern
  width : Width
  kind : PartKind := .other

namespace Part

def ofTest (test : Nat → Bool) : Part := ⟨.one test, .single, .other⟩

def ofMark (test : Place → Bool) : Part := ⟨.mark test, .zero, .place⟩

/-- Parts one after the other, given the last first. -/
def joined (parts : List Part) : Part :=
  parts.foldl (fun after part => ⟨.sequence part.pattern after.pattern, part.width.add after.width, .other⟩)
    ⟨.empty, .zero, .other⟩

/-- One of several parts. -/
def oneOf : List Part → Part
  | [] => ⟨.empty, .zero, .other⟩
  | [part] => part
  | part :: rest =>
      let others := oneOf rest
      ⟨.choice part.pattern others.pattern, part.width.either others.width, .other⟩

end Part

def isOctal (c : Char) : Bool := '0' ≤ c && c ≤ '7'

def digitIn (c : Char) : Nat := ("0123456789abcdef".toList.findIdx? (· == c.toLower)).getD 0

/-- The number that digits are to a base. -/
def numberOf (base : Nat) (digits : List Char) : Nat :=
  digits.foldl (fun n c => n * base + digitIn c) 0

def isHexDigit (c : Char) : Bool := c.isDigit || ('a' ≤ c.toLower && c.toLower ≤ 'f')

/-- Take the digits of a code point, of which there must be so many. -/
def takeHexCode (count : Nat) : Reading Nat := do
  let digits ← takeWhile isHexDigit count
  let code := numberOf 16 digits
  if digits.length = count ∧ code < 0x110000 then return code else fail

/-- The greatest code point that is written by its digits to the base 8. -/
def lastOctal : Nat := 0o377

/-- The code point that digits to the base 8 are. -/
def octalCode (digits : List Char) : Reading Nat :=
  let code := numberOf 8 digits
  if code ≤ lastOctal then return code else fail

/-- The control character that a letter behind a stroke stands for. -/
def control? : Char → Option Char
  | 'a' => some '\x07'
  | 'f' => some '\x0c'
  | 'n' => some '\n'
  | 'r' => some '\r'
  | 't' => some '\t'
  | 'v' => some '\x0b'
  | _ => none

/-- The code point that a letter behind a stroke begins to tell by its number. -/
def takeNumbered? : Char → Option (Reading Nat)
  | 'x' => some (takeHexCode 2)
  | 'u' => some (takeHexCode 4)
  | 'U' => some (takeHexCode 8)
  | _ => none

/-- A group that is asked for while a part looks back must have ended in front of that part. -/
def ensureBehind (number : Nat) : Reading Unit := do
  let progress ← get
  match progress.lookingBack with
  | none => return
  | some begun =>
      if (progress.widths.lookup number).isNone || begun < number then fail

/-- What a group was found for. The group must have ended. -/
def takeAgain (manner : Manner) (number : Nat) : Reading Part := do
  match (← get).widths.lookup number with
  | none => fail
  | some width =>
      ensureBehind number
      return ⟨.again number manner.same, width, .other⟩

/-- The part that a digit behind a stroke begins: a group by its number, or a code point. -/
def takeDigits (manner : Manner) (c : Char) : Reading Part := do
  if c == '0' then
    let digits ← takeWhile isOctal 2
    return .ofTest (manner.literal (numberOf 8 digits))
  let more ← takeWhile Char.isDigit 1
  let isCode := isOctal c && more.length == 1 && more.all isOctal
  let last ← if isCode then takeWhile isOctal 1 else pure []
  if last.isEmpty then takeAgain manner (numberOf 10 (c :: more))
  else return .ofTest (manner.literal (← octalCode (c :: more ++ last)))

/-- The part that a stroke and the character behind it begin. -/
def takeStroke (manner : Manner) (code : Nat) : Reading Part := do
  if 128 ≤ code then return .ofTest (manner.literal code)
  let c := Char.ofNat code
  match manner.mark? c, manner.kind? c, control? c, takeNumbered? c with
  | some test, _, _, _ => return .ofMark test
  | none, some test, _, _ => return .ofTest test
  | none, none, some d, _ => return .ofTest (manner.literal d.toNat)
  | none, none, none, some number => return .ofTest (manner.literal (← number))
  | none, none, none, none =>
      if c.isDigit then takeDigits manner c
      else if c.isAlpha then fail
      else return .ofTest (manner.literal code)

/-! ### Sets -/

/-- A member of a set: a code point, or a test. -/
inductive Member where
  | code (n : Nat)
  | kind (test : Nat → Bool)

/-- The member that a stroke and the character behind it begin. -/
def takeMember (manner : Manner) : Token → Reading Member
  | .plain code => return .code code
  | .stroke code => do
      if 128 ≤ code then return .code code
      let c := Char.ofNat code
      match manner.kind? c, control? c, takeNumbered? c with
      | some test, _, _ => return .kind test
      | none, some d, _ => return .code d.toNat
      | none, none, some number => return .code (← number)
      | none, none, none =>
          if c == 'b' then return .code 8
          else if isOctal c then return .code (← octalCode (c :: (← takeWhile isOctal 2)))
          else if c.isAlphanum then fail
          else return .code code

/-- The test for a member. -/
def Member.holds (manner : Manner) : Member → Nat → Bool
  | .code n => manner.literal n
  | .kind test => test

/-- Take the members of a set up to its end, and give a test for each. -/
def takeMembers (manner : Manner) : Nat → Bool → Reading (List (Nat → Bool))
  | 0, _ => fail
  | fuel + 1, isFirst => do
      let token ← takeOne
      if token = .plain ']'.toNat ∧ !isFirst then return []
      let member ← takeMember manner token
      if !(← takes '-') then
        return member.holds manner :: (← takeMembers manner fuel false)
      let token ← takeOne
      if token = .plain ']'.toNat then
        return [member.holds manner, manner.literal '-'.toNat]
      match member, ← takeMember manner token with
      | .code first, .code last =>
          if last < first then fail
          else return manner.range first last :: (← takeMembers manner fuel false)
      | _, _ => fail

/-- Take a set, whose bracket was taken. -/
def takeSet (manner : Manner) : Reading Part := do
  let isOutside ← takes '^'
  let tests ← takeMembers manner ((← get).rest.length + 1) true
  return .ofTest fun code => tests.any (fun test => test code) != isOutside

/-! ### Repetitions -/

/-- Numbers of repetitions are less than this. -/
def countLimit : Nat := 4294967295

/-- The number that digits are, nothing when there are none. -/
def countOf (digits : List Char) : Reading (Option Nat) := do
  if digits.isEmpty then return none
  let count := numberOf 10 digits
  if countLimit ≤ count then throw .tooMany else return some count

/-- Take what stands between braces, if it is the numbers of a repetition. -/
def takeBounds? : Reading (Option (Nat × Option Nat)) := do
  let before ← get
  let low ← takeAll Char.isDigit
  let hasComma ← takes ','
  let high ← if hasComma then takeAll Char.isDigit else pure low
  let isEmpty := low.isEmpty && !hasComma
  if isEmpty || !(← takes '\x7d') then
    set before
    return none
  let least ← countOf low
  let most ← countOf high
  if most.any (· < least.getD 0) then fail else return some (least.getD 0, most)

/-- How often what is in front of a character is repeated, if the character and what follows it tell. -/
def takeCount? (c : Char) : Reading (Option (Nat × Option Nat)) :=
  match c with
  | '*' => return some (0, none)
  | '+' => return some (1, none)
  | '?' => return some (0, some 1)
  | '\x7b' => takeBounds?
  | _ => return none

/-- The last of the parts so far, repeated. -/
def takeRepetition (manner : Manner) (least : Nat) (most : Option Nat) :
    List Part → Reading (List Part)
  | [] => fail
  | part :: before => do
      if part.kind ≠ .other then fail
      if manner.plain then flaw
      let isLazy ← takes '?'
      let isFirm ← if isLazy then pure false else takes '+'
      let eagerness := if isLazy then Eagerness.lazy else if isFirm then .firm else .eager
      return ⟨.repetition part.pattern least most eagerness, part.width.times least most, .repetition⟩
        :: before

/-! ### Groups -/

/-- The place of a code point in a name. -/
def isNameCode (code : Nat) : Bool := code == '_'.toNat || isWordLetter code

/-- Whether a group may have a name. -/
def isName (name : List Nat) : Bool :=
  name.all isNameCode && name.head?.any fun code => (digitOfCode? code).isNone

/-- The number of a group by its name. -/
def numberOfName (name : List Nat) : Reading Nat := do
  match (← get).names.lookup name with
  | some number => return number
  | none => fail

/-- Begin a group. -/
def beginGroup (name : Option (List Nat)) : Reading Nat := do
  let number := (← get).begun + 1
  modify fun progress => { progress with begun := number }
  match name with
  | none => return number
  | some name =>
      if ((← get).names.lookup name).isSome then fail
      modify fun progress => { progress with names := (name, number) :: progress.names }
      return number

/-- The group that the head of a group of two parts asks for, by its name or its number. -/
def takeCondition : Reading Nat := do
  let name ← takeName ')'
  let number ←
    if isName name then numberOfName name
    else match Numeral.readInteger? (ofCodes name) with
      | some number => if 0 < number then pure number.toNat else fail
      | none => fail
  modify fun progress => { progress with asked := number :: progress.asked }
  ensureBehind number
  return number

/-- The letters of a manner that a group turns on and off, and whether they are for all that follows. -/
structure Turns where
  on : List Char
  off : List Char
  forAll : Bool

/-- The letters for the scripts of a manner. -/
def scriptLetters : List Char := ['a', 'u']

/-- Take the letters of a manner. -/
def takeTurns : Reading Turns := do
  let on ← takeAll Manner.letters.contains
  if scriptLetters.all on.contains then fail
  if !on.isEmpty && (← takes ')') then return ⟨on, [], true⟩
  let turnsOff ← takes '-'
  let off ← if turnsOff then takeAll Manner.letters.contains else pure []
  ensure ':'
  if (if turnsOff then off else on).isEmpty then fail
  if (on ++ off).contains 't' || off.any scriptLetters.contains || on.any off.contains then fail
  return ⟨on, off, false⟩

/-- What a group is, by its head. -/
inductive Head where
  | kept (name : Option (List Nat))
  | unkept
  | settled
  | turned (turns : Turns)
  | look (isBack wanted : Bool)
  | whether (number : Nat)
  | again (name : List Nat)
  | remark

/-- Take the head of a group that looks ahead or back. -/
def takeLook (isBack : Bool) : Reading Head := do
  if ← takes '=' then return .look isBack true
  else if ← takes '!' then return .look isBack false
  else fail

/-- Take the name that a group has or asks for. -/
def takeNamed : Reading Head := do
  if ← takes '<' then
    let name ← takeName '>'
    if isName name then return .kept (some name) else fail
  else if ← takes '=' then
    let name ← takeName ')'
    if isName name then return .again name else fail
  else fail

/-- Take the head of a group, whose parenthesis was taken. -/
def takeHead : Reading Head := do
  if !(← takes '?') then return .kept none
  match (← peek?).bind Token.char? with
  | some 'P' => do
      let _ ← take?
      takeNamed
  | some ':' => do
      let _ ← take?
      return .unkept
  | some '>' => do
      let _ ← take?
      return .settled
  | some '#' => do
      let _ ← takeUntil ')'
      return .remark
  | some '<' => do
      let _ ← take?
      takeLook true
  | some '(' => do
      let _ ← take?
      return .whether (← takeCondition)
  | some c => if c == '=' || c == '!' then takeLook false else return .turned (← takeTurns)
  | none => fail

/-- Whether a token is a blank that the spaced manner passes over. -/
def isGapToken (token : Token) : Bool := token.char?.any " \t\n\r\x0b\x0c".toList.contains

/-- Pass over a remark up to the end of its line. -/
def passRemark : Reading Unit :=
  modify fun progress =>
    { progress with rest := (progress.rest.dropWhile (· != .plain '\n'.toNat)).drop 1 }

/-- Take a part that is a single token, and what belongs to it. -/
def takeSimple (manner : Manner) : Token → Reading Part
  | .stroke code => takeStroke manner code
  | .plain code => do
      match Char.ofNat code with
      | '[' => takeSet manner
      | '.' => return .ofTest fun other => manner.dotIsAll || !Manner.isLineEnd other
      | '^' => return .ofMark manner.atStart
      | '$' => return .ofMark manner.atEnd
      | _ => return .ofTest (manner.literal code)

/-- The manner of a part: its own, or that of the whole pattern. -/
def mannerOf (scope : Option Manner) : Reading Manner := return scope.getD (← get).manner

mutual

/-- Take one of several parts, up to the end of a group or of the pattern. A pattern itself may begin with a
manner for all of it. -/
def takeChoices : Nat → Option Manner → Bool → Reading (List Part)
  | 0, _, _ => fail
  | fuel + 1, scope, isFirst => do
      let part := Part.joined (← takeSequence fuel scope isFirst [])
      if ← takes '|' then return part :: (← takeChoices fuel scope false) else return [part]

/-- Take parts up to the end of a choice. `parts` are those so far, the last first. -/
def takeSequence : Nat → Option Manner → Bool → List Part → Reading (List Part)
  | 0, _, _, _ => fail
  | fuel + 1, scope, isFirst, parts => do
      match ← peek? with
      | none => return parts
      | some token =>
          if token = .plain '|'.toNat ∨ token = .plain ')'.toNat then return parts
          let _ ← take?
          let manner ← mannerOf scope
          if manner.spaced && isGapToken token then takeSequence fuel scope isFirst parts
          else if manner.spaced && token = .plain '#'.toNat then
            passRemark
            takeSequence fuel scope isFirst parts
          else if token = .plain '('.toNat then
            match ← takeGroup fuel scope (isFirst && parts.isEmpty) with
            | some part => takeSequence fuel scope isFirst (part :: parts)
            | none => takeSequence fuel scope isFirst parts
          else
            match ← takeCount? (token.char?.getD ' ') with
            | some (least, most) =>
                takeSequence fuel scope isFirst (← takeRepetition manner least most parts)
            | none => takeSequence fuel scope isFirst ((← takeSimple manner token) :: parts)

/-- Take a group, whose parenthesis was taken. A remark and a manner for all that follows are no part. -/
def takeGroup : Nat → Option Manner → Bool → Reading (Option Part)
  | 0, _, _ => fail
  | fuel + 1, scope, isFirst => do
      let manner ← mannerOf scope
      let inside (manner : Manner) : Reading Part := do
        let part := Part.oneOf (← takeChoices fuel (some manner) false)
        ensure ')'
        return { part with kind := .other }
      match ← takeHead with
      | .remark => return none
      | .again name => return some (← takeAgain manner (← numberOfName name))
      | .kept name =>
          let number ← beginGroup name
          let part ← inside manner
          modify fun progress => { progress with widths := (number, part.width) :: progress.widths }
          return some { part with pattern := .group number part.pattern }
      | .unkept => return some (← inside manner)
      | .settled =>
          let part ← inside manner
          return some { part with pattern := .settled part.pattern }
      | .turned turns =>
          if turns.forAll then
            if !isFirst then fail
            modify fun progress =>
              { progress with manner := turns.on.foldl (Manner.turn true) progress.manner }
            return none
          else return some (← inside (manner.ofGroup turns.on turns.off))
      | .look false wanted =>
          let part ← inside manner
          return some ⟨.look part.pattern wanted, .zero, .other⟩
      | .look true wanted =>
          let before := (← get).lookingBack
          modify fun progress =>
            { progress with lookingBack := some (before.getD progress.begun) }
          let part ← inside manner
          modify fun progress => { progress with lookingBack := before }
          if part.width.least ≠ part.width.most then flaw
          return some ⟨.lookBack part.width.least part.pattern wanted, .zero, .other⟩
      | .whether number =>
          let present := Part.joined (← takeSequence fuel (some manner) false [])
          let hasOther ← takes '|'
          let absent ←
            if hasOther then Part.joined <$> takeSequence fuel (some manner) false []
            else pure ⟨.empty, .zero, .other⟩
          ensure ')'
          return some ⟨.whether number present.pattern absent.pattern,
            present.width.either absent.width, .other⟩

end

/-- Take a whole pattern. -/
def takePattern : Reading Pattern := do
  let fuel := 4 * (← get).rest.length + 4
  let part := Part.oneOf (← takeChoices fuel none true)
  let progress ← get
  if progress.manner.ascii && progress.manner.allScripts then throw .manner
  if !progress.rest.isEmpty || progress.asked.any (progress.begun < ·) || progress.flawed then fail
  return part.pattern

/-- Read a pattern. -/
def read (manner : Manner) (s : String) : Except Fault Pattern := do
  match Token.ofCodes? (codes s) with
  | none => throw .wrong
  | some tokens => return (← takePattern.run { rest := tokens, manner }).1

end Countersign.Text.Pattern
