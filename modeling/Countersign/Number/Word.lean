/-
Module: Countersign.Number.Word
Purpose: The integers of 64 bits.
Main exports: fitsWord, insideWord
-/

namespace Countersign

/-- Whether a number is one of 64 bits. -/
def fitsWord (n : Int) : Bool := -9223372036854775808 ≤ n && n < 9223372036854775808

/-- Whether a whole double is one of 64 bits. The least of them is not reached by doubles. -/
def insideWord (n : Int) : Bool := -9223372036854775808 < n && n < 9223372036854775808

end Countersign
