/-
Module: Countersign.Text.Pattern
Purpose: Patterns of texts and where they are found.
Main exports: Place, Pattern, Pattern.run, Pattern.isFoundIn
-/
import Countersign.Text.CodePoint

namespace Countersign.Text

/-!
A pattern is tried at a place in a text and goes on from it to others, in the order of its preference. What
comes behind it in the whole pattern is handed to it as a continuation, which tells at what place all of it
ends, if it does. The text that a group was found for last is kept, so that a later part can ask for it.
-/

/-- A place in a text: how many code points are in front of it, which, the nearest first, and which follow;
and what groups were found for, the last finding first. -/
structure Place where
  index : Nat
  behind : List Nat
  ahead : List Nat
  found : List (Nat × List Nat)

namespace Place

/-- The place in front of a text. -/
def startOf (codes : List Nat) : Place := ⟨0, [], codes, []⟩

/-- The place behind the next code point, if there is one and it passes a test. -/
def step? (test : Nat → Bool) (place : Place) : Option Place :=
  match place.ahead with
  | code :: rest =>
      if test code then some { place with index := place.index + 1, behind := code :: place.behind, ahead := rest }
      else none
  | [] => none

/-- The place so many code points back. -/
def back? : Nat → Place → Option Place
  | 0, place => some place
  | count + 1, place =>
      match place.behind with
      | code :: rest =>
          back? count { place with index := place.index - 1, behind := rest, ahead := code :: place.ahead }
      | [] => none

/-- Keep what lies between two places as what a group was found for. -/
def keep (group : Nat) (start stop : Place) : Place :=
  { stop with found := (group, start.ahead.take (stop.index - start.index)) :: stop.found }

/-- The place behind given code points, if they follow, two of them being compared by a relation. -/
def pass? (same : Nat → Nat → Bool) : List Nat → Place → Option Place
  | [], place => some place
  | code :: rest, place => (place.step? (same code)).bind (pass? same rest)

/-- The places that steps lead to, the furthest first, from a place on that stands in front of those in a
list. At most so many steps are taken. -/
def stepsFrom (test : Nat → Bool) : Nat → List Place → Place → List Place
  | 0, passed, place => place :: passed
  | bound + 1, passed, place =>
      match place.step? test with
      | some next => stepsFrom test bound (place :: passed) next
      | none => place :: passed

end Place

/-- How often a part that is repeated is tried: as often as it can, as seldom as it can, or as often as it can
without another attempt. -/
inductive Eagerness where
  | eager
  | lazy
  | firm
deriving DecidableEq, Repr

/-- A pattern of texts. -/
inductive Pattern where
  /-- The empty text. -/
  | empty
  /-- One code point that passes a test. -/
  | one (test : Nat → Bool)
  /-- A place that passes a test. -/
  | mark (test : Place → Bool)
  | sequence (first second : Pattern)
  /-- The left pattern, or else the right one. -/
  | choice (left right : Pattern)
  /-- At least so many times, and at most so many when there is a bound. -/
  | repetition (part : Pattern) (least : Nat) (most : Option Nat) (eagerness : Eagerness)
  /-- A part whose text is kept under a number. -/
  | group (number : Nat) (part : Pattern)
  /-- The text that a group was found for, by a relation of code points. -/
  | again (number : Nat) (same : Nat → Nat → Bool)
  /-- A place at which a part begins, or does not begin. -/
  | look (part : Pattern) (wanted : Bool)
  /-- A place behind so many code points that are, or are not, a part. -/
  | lookBack (width : Nat) (part : Pattern) (wanted : Bool)
  /-- A part that is not tried in another way when what follows fails. -/
  | settled (part : Pattern)
  /-- One of two parts: the first if a group was found. -/
  | whether (number : Nat) (present absent : Pattern)

namespace Pattern

/-- What comes behind a part: the place at which all ends, if it does. -/
abbrev Rest := Place → Option Place

/-- A part tried exactly so many times. -/
def repeated (body : Rest → Rest) : Nat → Rest → Rest
  | 0, rest => rest
  | count + 1, rest => body (repeated body count rest)

/-- A part tried up to so many times. An attempt that went nowhere is the last. -/
def upTo (body : Rest → Rest) (isLazy : Bool) : Nat → Option Nat → Rest → Rest
  | 0, _, rest => rest
  | bound + 1, last, rest => fun place =>
      if last = some place.index then rest place
      else
        let again (_ : Unit) : Option Place :=
          body (upTo body isLazy bound (some place.index) rest) place
        if isLazy then (rest place).or (again ()) else (again ()).or (rest place)

/-- The place behind a part that is tried as often as it can, up to so many times. -/
def furthest (part : Rest) : Nat → Place → Place
  | 0, place => place
  | bound + 1, place =>
      match part place with
      | some next => if next.index = place.index then next else furthest part bound next
      | none => place

/-- Test single code points as often as they pass, and go on from there or from a place in front of it. -/
def spanned (test : Nat → Bool) (least bound : Nat) (eagerness : Eagerness) (rest : Rest) : Rest :=
  fun place =>
    let places := (place.stepsFrom test (least + bound) []).filter (place.index + least ≤ ·.index)
    match eagerness with
    | .eager => places.findSome? rest
    | .lazy => places.reverse.findSome? rest
    | .firm => places.head?.bind rest

/-- Repeat a part. Each attempt but the empty ones takes a code point, so that no more than there are can
matter. -/
def repeating (body : Rest → Rest) (least : Nat) (most : Option Nat) (eagerness : Eagerness)
    (rest : Rest) : Rest := fun place =>
  let enough := place.ahead.length + 1
  let bound := min (most.getD (least + enough) - least) enough
  match eagerness with
  | .eager => repeated body (min least enough) (upTo body false bound none rest) place
  | .lazy => repeated body (min least enough) (upTo body true bound none rest) place
  | .firm =>
      (repeated (fun rest place => (body some place).bind rest) (min least enough) some place).bind
        fun place => rest (furthest (body some) bound place)

/-- Try a pattern at a place with what comes behind it. -/
def run : Pattern → Rest → Rest
  | empty, rest => rest
  | one test, rest => fun place => (place.step? test).bind rest
  | mark test, rest => fun place => if test place then rest place else none
  | sequence first second, rest => first.run (second.run rest)
  | choice left right, rest => fun place => (left.run rest place).or (right.run rest place)
  | repetition (one test) least most eagerness, rest => fun place =>
      let enough := place.ahead.length + 1
      let least := min least enough
      spanned test least (min (most.getD (least + enough) - least) enough) eagerness rest place
  | repetition part least most eagerness, rest => repeating part.run least most eagerness rest
  | group number part, rest => fun place => part.run (fun stop => rest (place.keep number stop)) place
  | again number same, rest => fun place =>
      ((place.found.lookup number).bind fun codes => place.pass? same codes).bind rest
  | look part wanted, rest => fun place =>
      match part.run some place with
      | some stop => if wanted then rest { place with found := stop.found } else none
      | none => if wanted then none else rest place
  | lookBack width part wanted, rest => fun place =>
      match (place.back? width).bind (part.run some) with
      | some stop => if wanted then rest { place with found := stop.found } else none
      | none => if wanted then none else rest place
  | settled part, rest => fun place => (part.run some place).bind rest
  | whether number present absent, rest => fun place =>
      if (place.found.lookup number).isSome then present.run rest place else absent.run rest place

/-- Whether a pattern is found at a place or after it, at most so many code points further on. -/
def isFoundFrom (pattern : Pattern) : Nat → Place → Bool
  | 0, place => (pattern.run some place).isSome
  | bound + 1, place =>
      (pattern.run some place).isSome
        || ((place.step? fun _ => true).map (isFoundFrom pattern bound)).getD false

/-- Whether a pattern is found in a text. -/
def isFoundIn (pattern : Pattern) (s : String) : Bool :=
  pattern.isFoundFrom (length s) (Place.startOf (codes s))

end Pattern

end Countersign.Text
