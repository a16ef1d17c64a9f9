/-
Module: Countersign.Text.CodePoint
Purpose: Texts as code points, halves of surrogate pairs among them.
Main exports: charsOf, ofCodes, codes, length, take, letters, order, hasHalf, withoutHalves, codes_ofCodes
-/

namespace Countersign.Text

/-!
A text is a row of code points, and one that was written with escapes may hold half of a surrogate pair,
which is no character. A `String` has no room for halves, so the last code point of all is kept as a mark:
a half is kept as the mark and a private character, and the mark itself as two marks. Texts that are
kept like this are equal just when their code points are, and are joined by joining what is kept. What
counts, cuts or orders texts goes by `codes`.
-/

/-- The first half of a pair, in UTF-16. -/
def firstHalf : Nat := 0xd800

/-- How many halves there are. -/
def halfCount : Nat := 0x800

/-- Whether a code is that of half of a pair. -/
def isHalf (code : Nat) : Bool := firstHalf ≤ code && code < firstHalf + halfCount

/-- The code of the mark, the last of all. -/
def markCode : Nat := 0x10ffff

/-- The character in front of what stands for a half. -/
def mark : Char := Char.ofNat markCode

/-- The first of the private characters that stand for halves behind a mark. -/
def firstStandIn : Nat := 0x100000

/-- The characters that a code point is kept as. -/
def charsOf (code : Nat) : List Char :=
  if isHalf code then [mark, Char.ofNat (firstStandIn + (code - firstHalf))]
  else if code = markCode then [mark, mark]
  else [Char.ofNat code]

/-- The text of some code points. -/
def ofCodes (codes : List Nat) : String := String.ofList (codes.flatMap charsOf)

/-- The code that a character behind a mark stands for. -/
def markedCode (c : Char) : Nat :=
  if c = mark then markCode else c.toNat - firstStandIn + firstHalf

/-- The code points that characters are kept for. -/
def codesOf : List Char → List Nat
  | [] => []
  | [c] => [c.toNat]
  | c :: d :: rest =>
      if c = mark then markedCode d :: codesOf rest else c.toNat :: codesOf (d :: rest)

/-- The first code point that characters are kept for, and the characters behind it. -/
def splitCode? : List Char → Option (Nat × List Char)
  | [] => none
  | [c] => some (c.toNat, [])
  | c :: d :: rest => if c = mark then some (markedCode d, rest) else some (c.toNat, d :: rest)

/-- The code points of a text. -/
def codes (s : String) : List Nat := codesOf s.toList

/-- A code point that is kept as itself. -/
def isPlain (code : Nat) : Bool := code.isValidChar && code != markCode

/-- A character that is made from a code has that code. -/
theorem code_of_valid {code : Nat} (valid : code.isValidChar) : (Char.ofNat code).toNat = code := by
  unfold Char.ofNat
  rw [dif_pos valid]
  rfl

theorem mark_toNat : mark.toNat = markCode := code_of_valid (by simp [Nat.isValidChar, markCode])

theorem isHalf_iff {code : Nat} : isHalf code = true ↔ 0xd800 ≤ code ∧ code < 0xe000 := by
  unfold isHalf firstHalf halfCount
  rw [Bool.and_eq_true, decide_eq_true_iff, decide_eq_true_iff]

theorem isValidChar_of_not_half {code : Nat} (known : code ≤ 0x10ffff)
    (whole : ¬ isHalf code = true) : code.isValidChar := by
  rw [isHalf_iff] at whole
  unfold Nat.isValidChar
  omega

theorem standIn_valid {code : Nat} (half : isHalf code = true) :
    (firstStandIn + (code - firstHalf)).isValidChar := by
  rw [isHalf_iff] at half
  unfold Nat.isValidChar firstStandIn firstHalf
  omega

theorem ofNat_ne_mark {code : Nat} (valid : code.isValidChar) (other : code ≠ markCode) :
    Char.ofNat code ≠ mark := by
  intro same
  have codesSame := congrArg Char.toNat same
  rw [code_of_valid valid, mark_toNat] at codesSame
  exact other codesSame

/-- What is kept for a code point is read as that code point, whatever follows. -/
theorem codesOf_charsOf_append {code : Nat} (known : code ≤ 0x10ffff) (rest : List Char) :
    codesOf (charsOf code ++ rest) = code :: codesOf rest := by
  unfold charsOf
  by_cases half : isHalf code = true
  · have valid := standIn_valid half
    have other : firstStandIn + (code - firstHalf) ≠ markCode := by
      rw [isHalf_iff] at half
      unfold firstStandIn firstHalf markCode
      omega
    have back : firstStandIn + (code - firstHalf) - firstStandIn + firstHalf = code := by
      rw [isHalf_iff] at half
      unfold firstStandIn firstHalf
      omega
    rw [if_pos half]
    simp only [List.cons_append, List.nil_append, codesOf, if_true, markedCode,
      if_neg (ofNat_ne_mark valid other), code_of_valid valid, back]
  · rw [if_neg half]
    have valid := isValidChar_of_not_half known half
    by_cases last : code = markCode
    · rw [if_pos last]
      simp only [List.cons_append, List.nil_append, codesOf, if_true, markedCode, last]
    · rw [if_neg last]
      cases rest with
      | nil => simp only [List.append_nil, codesOf, code_of_valid valid]
      | cons d rest =>
          simp only [List.cons_append, List.nil_append, codesOf, if_neg (ofNat_ne_mark valid last),
            code_of_valid valid]

/-- The code points of a text are those that it was made of. -/
theorem codes_ofCodes (codes : List Nat) (known : ∀ code ∈ codes, code ≤ 0x10ffff) :
    Text.codes (ofCodes codes) = codes := by
  unfold Text.codes ofCodes
  rw [String.toList_ofList]
  induction codes with
  | nil => rfl
  | cons code rest ih =>
      rw [List.flatMap_cons, codesOf_charsOf_append (known code (by simp)),
        ih fun other within => known other (List.mem_cons_of_mem _ within)]

/-! ### What goes by code points -/

/-- How many code points a text has. -/
def length (s : String) : Nat := (codes s).length

/-- The first code points of a text. -/
def take (count : Nat) (s : String) : String := ofCodes ((codes s).take count)

/-- The code points of a text, each as a text. -/
def letters (s : String) : List String := (codes s).map fun code => ofCodes [code]

/-- The order of two rows of code points, that of the first place where they differ. -/
def orderCodes : List Nat → List Nat → Ordering
  | [], [] => .eq
  | [], _ :: _ => .lt
  | _ :: _, [] => .gt
  | a :: as, b :: bs => if a = b then orderCodes as bs else compare a b

/-- The order of two texts. -/
def order (s t : String) : Ordering := orderCodes (codes s) (codes t)

/-- Whether a text comes in front of another or is the same. -/
def upTo (s t : String) : Bool := order s t != .gt

/-- Whether a text holds half of a pair, so that it has no form in bytes. -/
def hasHalf (s : String) : Bool := (codes s).any isHalf

/-- A text with every half of a pair replaced by three marks of a fault, one for each of its bytes. -/
def withoutHalves (s : String) : String :=
  ofCodes ((codes s).flatMap fun code =>
    if isHalf code then [0xfffd, 0xfffd, 0xfffd] else [code])

end Countersign.Text
