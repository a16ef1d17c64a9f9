/-
Module: Countersign.Text.Split
Purpose: Texts cut at each place where a separator stands, and the parts of paths.
Main exports: splitBy, pathParts, pathParts_of_plain
-/
import Countersign.Text.CodePoint

namespace Countersign.Text

/-- Cut code points at each place where a separator stands, from left to right, at most `fuel` of them being
looked at. `part` is what was passed since the last separator, in reverse. -/
def splitCodes (separator part : List Nat) : Nat → List Nat → List (List Nat)
  | 0, codes => [part.reverse ++ codes]
  | _, [] => [part.reverse]
  | fuel + 1, code :: rest =>
      if separator.isPrefixOf (code :: rest) then
        part.reverse :: splitCodes separator [] fuel ((code :: rest).drop separator.length)
      else splitCodes separator (code :: part) fuel rest

/-- The pieces of a text between the places where a separator stands. -/
def splitBy (separator s : String) : List String :=
  let codes := codes s
  (splitCodes (Text.codes separator) [] (codes.length + 1) codes).map ofCodes

/-- The pieces of a row of characters between the places where one character stands. -/
def pieces (separator : Char) : List Char → List (List Char)
  | [] => [[]]
  | c :: rest =>
      if c = separator then [] :: pieces separator rest
      else match pieces separator rest with
        | first :: others => (c :: first) :: others
        | [] => [[c]]

/-- The parts of a path, between which points stand. -/
def pathParts (path : String) : List String := (pieces '.' path.toList).map String.ofList

/-- A name without points is a path of one part. -/
theorem pathParts_of_plain {name : String} (plain : '.' ∉ name.toList) : pathParts name = [name] := by
  have whole : ∀ cs : List Char, '.' ∉ cs → pieces '.' cs = [cs] := by
    intro cs
    induction cs with
    | nil => intro _; rfl
    | cons c rest ih =>
        intro without
        rw [List.mem_cons, not_or] at without
        rw [pieces, if_neg (Ne.symm without.1), ih without.2]
  rw [pathParts, whole _ plain, List.map_singleton, String.ofList_toList]

end Countersign.Text
