/-
Module: Countersign.Text.Punycode
Purpose: Words of any script written in the letters of the common one.
Main exports: punycode
-/

namespace Countersign.Text

/-!
The code points beyond ASCII are taken in rising order. Each is written as the number of places and code
points passed over since the last, in digits whose bounds move with the sizes of the numbers so far.
-/

namespace Punycode

/-- The letter of a digit: the letters first, then the figures. -/
def letterOf (digit : Nat) : Char :=
  if digit < 26 then Char.ofNat ('a'.toNat + digit) else Char.ofNat ('0'.toNat + (digit - 26))

/-- The bound of the digit at a place, which is a multiple of 36. -/
def bound (place bias : Nat) : Nat :=
  if place ≤ bias + 1 then 1 else if bias + 26 ≤ place then 26 else place - bias

/-- Bring a number down to at most 455, and count by how many places that was. -/
def scaled : Nat → Nat → Nat → Nat × Nat
  | 0, delta, places => (delta, places)
  | fuel + 1, delta, places =>
      if 455 < delta then scaled fuel (delta / 35) (places + 36) else (delta, places)

/-- The bias after a number was written. -/
def adapted (delta written : Nat) (first : Bool) : Nat :=
  let delta := if first then delta / 700 else delta / 2
  let delta := delta + delta / written
  let (delta, places) := scaled delta delta 0
  places + 36 * delta / (delta + 38)

/-- The letters of a number, which has at most `fuel` of them. -/
def lettersOf (bias : Nat) : Nat → Nat → Nat → List Char
  | 0, _, _ => []
  | fuel + 1, place, n =>
      let least := bound place bias
      if n < least then [letterOf n]
      else
        letterOf (least + (n - least) % (36 - least))
          :: lettersOf bias fuel (place + 36) ((n - least) / (36 - least))

/-- What has been written: the letters, the number that is being counted, the bias, and how many code
points are behind. -/
structure State where
  letters : List Char
  delta : Nat
  bias : Nat
  written : Nat

/-- Pass over a code point, or write it if it is the one whose turn it is. -/
def State.pass (plain turn : Nat) (state : State) (code : Nat) : State :=
  if code < turn then { state with delta := state.delta + 1 }
  else if code = turn then
    { letters := state.letters ++ lettersOf state.bias (state.delta + 1) 36 state.delta
      delta := 0
      bias := adapted state.delta (state.written + 1) (state.written == plain)
      written := state.written + 1 }
  else state

/-- Write the code points whose turns come, the lowest first. `next` is the lowest that could have been
written. -/
def writeTurns (codes : List Nat) (plain : Nat) : List Nat → Nat → State → State
  | [], _, state => state
  | turn :: turns, next, state =>
      let state := { state with delta := state.delta + (turn - next) * (state.written + 1) }
      let state := codes.foldl (State.pass plain turn) state
      writeTurns codes plain turns (turn + 1) { state with delta := state.delta + 1 }

end Punycode

/-- A word of any script in the letters of the common one. -/
def punycode (codes : List Nat) : String :=
  let plain := (codes.filter (· < 128)).map Char.ofNat
  let turns := ((codes.filter (128 ≤ ·)).mergeSort).eraseDups
  let state := Punycode.writeTurns codes plain.length turns 128 ⟨[], 0, 72, plain.length⟩
  String.ofList (plain ++ (if plain.isEmpty then [] else ['-']) ++ state.letters)

end Countersign.Text
