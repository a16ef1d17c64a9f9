/-
Module: Countersign.Text.Blank
Purpose: Blank characters, and texts without the blanks at their ends.
Main exports: isSpaceCode, isBlankCode, isSpace, isBlank, strip, trim, isBlank_of_isSpace, Trimmed, strip_trimmed,
  strip_of_trimmed
-/

namespace Countersign.Text

/-!
Two classes of blanks are in use. The spaces are the characters with the Unicode property White_Space;
the blanks are those and the four information separators. Names, roles and numerals lose the blanks
at their ends, `strip`; a text that is read as the value of a typed field loses the spaces, `trim`.
-/

/-- The code points with the property White_Space. -/
def isSpaceCode (n : Nat) : Bool :=
  (0x9 ≤ n && n ≤ 0xd) || n == 0x20 || n == 0x85 || n == 0xa0 || n == 0x1680
    || (0x2000 ≤ n && n ≤ 0x200a) || n == 0x2028 || n == 0x2029 || n == 0x202f || n == 0x205f
    || n == 0x3000

/-- The code points of the spaces and the information separators. -/
def isBlankCode (n : Nat) : Bool := isSpaceCode n || (0x1c ≤ n && n ≤ 0x1f)

def isSpace (c : Char) : Bool := isSpaceCode c.toNat

def isBlank (c : Char) : Bool := isBlankCode c.toNat

theorem isBlank_of_isSpace (c : Char) (space : isSpace c = true) : isBlank c = true := by
  have known : isSpaceCode c.toNat = true := space
  simp [isBlank, isBlankCode, known]

/-- What is left of a list without the members of a class at its ends. -/
def dropEnds (drop : Char → Bool) (cs : List Char) : List Char :=
  ((cs.dropWhile drop).reverse.dropWhile drop).reverse

/-- A text without the blanks at its ends. -/
def strip (s : String) : String := String.ofList (dropEnds isBlank s.toList)

/-- A text without the spaces at its ends. -/
def trim (s : String) : String := String.ofList (dropEnds isSpace s.toList)

/-- A text that neither begins nor ends with a blank. -/
def Trimmed (s : String) : Prop :=
  ∀ c ∈ s.toList.head?.toList ++ s.toList.getLast?.toList, isBlank c = false

instance (s : String) : Decidable (Trimmed s) := List.decidableBAll _ _

/-- What is left of a list does not begin with what was dropped in front of it. -/
theorem not_drop_of_head? {drop : Char → Bool} {cs : List Char} {c : Char}
    (first : (cs.dropWhile drop).head? = some c) : drop c = false := by
  have known := List.head?_dropWhile_not drop cs
  rwa [first] at known

/-- A text without the blanks at its ends has none there. -/
theorem strip_trimmed (s : String) : Trimmed (strip s) := by
  intro c ends
  rw [strip, String.toList_ofList, dropEnds, List.mem_append, Option.mem_toList, Option.mem_toList] at ends
  rcases ends with first | last
  · -- What is left is then cut at its end alone, so it begins as before.
    have front : ((s.toList.dropWhile isBlank).reverse.dropWhile isBlank).reverse <+: s.toList.dropWhile isBlank := by
      rw [← List.reverse_suffix, List.reverse_reverse]
      exact List.dropWhile_suffix _
    obtain ⟨rest, whole⟩ := front
    have begins : (s.toList.dropWhile isBlank).head? = some c := by
      rw [← whole, List.head?_append, first]
      rfl
    exact not_drop_of_head? begins
  · rw [List.getLast?_reverse] at last
    exact not_drop_of_head? last

/-- Nothing is dropped in front of a list that begins with nothing to drop. -/
theorem dropWhile_of_head? {drop : Char → Bool} {cs : List Char} (kept : ∀ c ∈ cs.head?, drop c = false) :
    cs.dropWhile drop = cs := by
  cases cs with
  | nil => rfl
  | cons c rest => simp [kept c rfl]

/-- A text without blanks at its ends loses none. -/
theorem strip_of_trimmed {s : String} (trimmed : Trimmed s) : strip s = s := by
  have front : s.toList.dropWhile isBlank = s.toList :=
    dropWhile_of_head? fun c first => trimmed c (List.mem_append_left _ (Option.mem_toList.2 first))
  have back : s.toList.reverse.dropWhile isBlank = s.toList.reverse :=
    dropWhile_of_head? fun c last => trimmed c (List.mem_append_right _ (Option.mem_toList.2 (by simpa using last)))
  rw [strip, dropEnds, front, back, List.reverse_reverse, String.ofList_toList]

end Countersign.Text
