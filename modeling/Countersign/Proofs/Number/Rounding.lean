/-
Module: Countersign.Proofs.Number.Rounding
Purpose: What the conversion of whole numbers to doubles keeps: their order, and every number up to 2 ^ 53.
Main exports: Double.divNearest_mono, Double.nearest, Double.nearest_mono, Double.roundUnits_one, Double.InRange,
  Double.nearestUnits, Double.nearestUnits_mono, Double.ofInt_of_inRange, Double.ofInt_of_not_inRange,
  Double.ofInt_inj_iff, Double.eq_of_ofInt_eq
-/
import Countersign.Number.Double
import Mathlib.Algebra.Order.Group.Nat
import Mathlib.Data.Nat.Log

namespace Countersign

namespace Double

/-!
Around a whole number of units the doubles stand on a grid, whose spacing is the power of two that leaves 53 digits of
the number. Rounding takes the nearest point of the grid. On one grid a larger number is never rounded to a smaller
point, and between two grids stands a power of two, which is a point of both: so rounding keeps the order of all whole
numbers, although it may make two of them equal. What is rounded to `2 ^ 1024` or more has no double.
-/

/-! ### Powers of two -/

theorem twoTo_pos (n : Nat) : 0 < twoTo n := Nat.two_pow_pos n

theorem twoTo_add (m n : Nat) : twoTo (m + n) = twoTo m * twoTo n := Nat.pow_add 2 m n

theorem twoTo_le {m n : Nat} (le : m ≤ n) : twoTo m ≤ twoTo n := Nat.pow_le_pow_right Nat.two_pos le

theorem twoTo_dvd {m n : Nat} (le : m ≤ n) : twoTo m ∣ twoTo n := Nat.pow_dvd_pow 2 le

theorem twoTo_log2_le {n : Nat} (positive : n ≠ 0) : twoTo n.log2 ≤ n := Nat.log2_self_le positive

theorem lt_twoTo_log2_succ (n : Nat) : n < twoTo (n.log2 + 1) := Nat.lt_log2_self

theorem log2_lt {n k : Nat} (positive : n ≠ 0) (less : n < twoTo k) : n.log2 < k := (Nat.log2_lt positive).2 less

/-! ### The nearest quotient -/

theorem divNearest_cases (n d : Nat) : divNearest n d = n / d ∨ divNearest n d = n / d + 1 := by
  unfold divNearest
  dsimp only
  split_ifs <;> simp

theorem divNearest_mul (k : Nat) {d : Nat} (positive : 0 < d) : divNearest (k * d) d = k := by
  unfold divNearest
  rw [Nat.mul_mod_left, if_pos (by simpa using positive), Nat.mul_div_cancel k positive]

/-- A larger number has no smaller nearest quotient. -/
theorem divNearest_mono {m n : Nat} (le : m ≤ n) (d : Nat) : divNearest m d ≤ divNearest n d := by
  obtain apart | same := (Nat.div_le_div_right (c := d) le).lt_or_eq
  · have below := divNearest_cases m d
    have above := divNearest_cases n d
    omega
  · -- With one quotient it is the rests that decide, and they are in order.
    have rests : m % d ≤ n % d := by
      have left := Nat.div_add_mod m d
      have right := Nat.div_add_mod n d
      rw [same] at left
      omega
    unfold divNearest
    dsimp only
    rw [same]
    split_ifs <;> omega

theorem divNearest_le {n k d : Nat} (positive : 0 < d) (le : n ≤ k * d) : divNearest n d ≤ k :=
  (divNearest_mono le d).trans_eq (divNearest_mul k positive)

theorem le_divNearest {n k d : Nat} (positive : 0 < d) (le : k * d ≤ n) : k ≤ divNearest n d :=
  (divNearest_mul k positive).symm.trans_le (divNearest_mono le d)

/-! ### The nearest point of the grid -/

/-- The spacing of the grid around a number of units, as a power of two. -/
def spacing (n : Nat) : Nat := n.log2 - 52

/-- The number of units that a number of units is rounded to. -/
def nearest (n : Nat) : Nat := divNearest n (twoTo (spacing n)) * twoTo (spacing n)

theorem nearest_le {n point : Nat} (onGrid : twoTo (spacing n) ∣ point) (le : n ≤ point) : nearest n ≤ point := by
  obtain ⟨k, rfl⟩ := onGrid
  rw [Nat.mul_comm] at le ⊢
  exact Nat.mul_le_mul_right _ (divNearest_le (twoTo_pos _) le)

theorem le_nearest {n point : Nat} (onGrid : twoTo (spacing n) ∣ point) (le : point ≤ n) : point ≤ nearest n := by
  obtain ⟨k, rfl⟩ := onGrid
  rw [Nat.mul_comm] at le ⊢
  exact Nat.mul_le_mul_right _ (le_divNearest (twoTo_pos _) le)

/-- A point of its own grid is not changed. -/
theorem nearest_of_dvd {n : Nat} (onGrid : twoTo (spacing n) ∣ n) : nearest n = n :=
  (nearest_le onGrid le_rfl).antisymm (le_nearest onGrid le_rfl)

theorem log2_mono {m n : Nat} (le : m ≤ n) : m.log2 ≤ n.log2 := by
  rw [Nat.log2_eq_log_two, Nat.log2_eq_log_two]
  exact Nat.log_mono_right le

/-- Rounding keeps the order. -/
theorem nearest_mono {m n : Nat} (le : m ≤ n) : nearest m ≤ nearest n := by
  obtain apart | same := (log2_mono le).lt_or_eq
  · -- The power of two between them is on both grids.
    have positive : n ≠ 0 := by
      rintro rfl
      exact absurd apart (Nat.not_lt_zero _)
    calc nearest m
      _ ≤ twoTo (m.log2 + 1) :=
          nearest_le (twoTo_dvd ((Nat.sub_le _ _).trans (Nat.le_succ _))) (lt_twoTo_log2_succ m).le
      _ ≤ twoTo n.log2 := twoTo_le apart
      _ ≤ nearest n := le_nearest (twoTo_dvd (Nat.sub_le _ _)) (twoTo_log2_le positive)
  · unfold nearest spacing
    rw [same]
    exact Nat.mul_le_mul_right _ (divNearest_mono le _)

/-! ### Doubles in their one form -/

/-- The mantissa and the shift of a double: no mantissa has more than 53 digits, and a smaller one stands only on the
finest grid. -/
structure Canonical (mantissa shift : Nat) : Prop where
  below : mantissa < twoTo 53
  normal : shift ≠ 0 → twoTo 52 ≤ mantissa

/-- A number of units has one mantissa and one shift. -/
theorem Canonical.unique {m s m' s' : Nat} (left : Canonical m s) (right : Canonical m' s')
    (same : m * twoTo s = m' * twoTo s') : m = m' ∧ s = s' := by
  have noLess {m s m' s' : Nat} (left : Canonical m s) (right : Canonical m' s')
      (same : m * twoTo s = m' * twoTo s') : s' ≤ s := by
    refine Nat.le_of_not_lt fun finer => absurd same (ne_of_lt ?_)
    calc m * twoTo s
      _ < twoTo 53 * twoTo s := Nat.mul_lt_mul_of_pos_right left.below (twoTo_pos s)
      _ = twoTo 52 * twoTo (1 + s) := by rw [twoTo_add 52 1, twoTo_add 1 s, Nat.mul_assoc]
      _ ≤ m' * twoTo s' := Nat.mul_le_mul (right.normal (by omega)) (twoTo_le (by omega))
  obtain rfl : s = s' := (noLess right left same.symm).antisymm (noLess left right same)
  exact ⟨Nat.eq_of_mul_eq_mul_right (twoTo_pos s) same, rfl⟩

/-- A whole number of units becomes the double on the nearest point, or an infinity where the shift of that point is
too large. -/
theorem roundUnits_one (negative : Bool) (n : Nat) : ∃ mantissa shift, Canonical mantissa shift ∧
    mantissa * twoTo shift = nearest n ∧
    roundUnits negative n 1 =
      if maxShift < shift then .infinite negative else .finite negative mantissa shift := by
  have shifts : (if n / 1 = 0 then 0 else (n / 1).log2 - 52) = spacing n := by
    rw [Nat.div_one, spacing]
    split_ifs with zero
    · rw [zero]
      decide
    · rfl
  have below : divNearest n (twoTo (spacing n)) ≤ twoTo 53 := by
    refine divNearest_le (twoTo_pos _) ((lt_twoTo_log2_succ n).le.trans ?_)
    rw [← twoTo_add]
    exact twoTo_le (by unfold spacing; omega)
  have normal (coarse : spacing n ≠ 0) : twoTo 52 ≤ divNearest n (twoTo (spacing n)) := by
    have positive : n ≠ 0 := by
      rintro rfl
      exact coarse (by decide)
    refine le_divNearest (twoTo_pos _) (le_trans ?_ (twoTo_log2_le positive))
    rw [← twoTo_add]
    exact twoTo_le (by unfold spacing at coarse ⊢; omega)
  unfold roundUnits
  dsimp only
  rw [shifts, Nat.one_mul]
  obtain carried | kept := eq_or_ne (divNearest n (twoTo (spacing n))) (twoTo 53)
  · -- The mantissa was rounded up to one digit too many, and its half takes its place.
    rw [if_pos carried]
    refine ⟨twoTo 52, spacing n + 1, ⟨by decide, fun _ => le_rfl⟩, ?_, rfl⟩
    rw [nearest, carried, twoTo_add (spacing n) 1, Nat.mul_comm (twoTo (spacing n)), ← Nat.mul_assoc, ← twoTo_add]
  · rw [if_neg kept]
    exact ⟨_, _, ⟨lt_of_le_of_ne below kept, normal⟩, rfl, rfl⟩

/-! ### Whole numbers -/

/-- A whole number that has a nearest double. The first one that has none is half way between the largest double and
`2 ^ 1024`. -/
def InRange (n : Int) : Prop := n.natAbs < twoTo 1024 - twoTo 970

instance (n : Int) : Decidable (InRange n) := inferInstanceAs (Decidable (_ < _))

/-- How many units the double nearest to a whole number has. -/
def nearestUnits (n : Int) : Int :=
  if n < 0 then -(nearest (n.natAbs * unitsPerOne) : Int) else nearest (n.natAbs * unitsPerOne)

/-- A larger number has no smaller nearest double. -/
theorem nearestUnits_mono {a b : Int} (le : a ≤ b) : nearestUnits a ≤ nearestUnits b := by
  have sizes {j k : Nat} (le : j ≤ k) : nearest (j * unitsPerOne) ≤ nearest (k * unitsPerOne) :=
    nearest_mono (Nat.mul_le_mul_right _ le)
  unfold nearestUnits
  split_ifs with negative other other
  · have := sizes (show b.natAbs ≤ a.natAbs by omega)
    omega
  · omega
  · omega
  · have := sizes (show a.natAbs ≤ b.natAbs by omega)
    omega

/-- Up to `2 ^ 53` every whole number of ones stands on its grid. -/
theorem nearest_of_le {k : Nat} (small : k ≤ twoTo 53) : nearest (k * unitsPerOne) = k * unitsPerOne := by
  obtain rfl | below := small.eq_or_lt
  · decide +kernel
  · have less : k * unitsPerOne < twoTo 1127 :=
      calc k * twoTo 1074
        _ < twoTo 53 * twoTo 1074 := Nat.mul_lt_mul_of_pos_right below (twoTo_pos 1074)
        _ = twoTo 1127 := (twoTo_add 53 1074).symm
    have fine : spacing (k * unitsPerOne) ≤ 1074 := by
      have digits : (k * unitsPerOne).log2 ≤ 1126 := by
        by_cases zero : k * unitsPerOne = 0
        · rw [zero]
          decide
        · exact Nat.le_of_lt_succ (log2_lt zero less)
      unfold spacing
      omega
    exact nearest_of_dvd (Nat.dvd_trans (twoTo_dvd fine) (Nat.dvd_mul_left (twoTo 1074) k))

theorem nearestUnits_of_le {n : Int} (small : n.natAbs ≤ twoTo 53) : nearestUnits n = n * unitsPerOne := by
  unfold nearestUnits
  rw [nearest_of_le small, Int.natCast_mul]
  split_ifs with negative
  · rw [← Int.neg_mul, Int.ofNat_natAbs_of_nonpos negative.le, Int.neg_neg]
  · rw [Int.natAbs_of_nonneg (not_lt.1 negative)]

/-- A number and its nearest double have the same sign. -/
theorem nearestUnits_neg_iff {n : Int} : nearestUnits n < 0 ↔ n < 0 := by
  have one : 0 < unitsPerOne := twoTo_pos 1074
  constructor
  · intro negative
    refine Int.lt_of_not_ge fun (notNegative : 0 ≤ n) => absurd negative (not_lt.2 ?_)
    rw [nearestUnits, if_neg (not_lt.2 notNegative)]
    exact Int.natCast_nonneg _
  · intro negative
    calc nearestUnits n
      _ ≤ nearestUnits (-1) := nearestUnits_mono (by omega)
      _ = -1 * unitsPerOne := nearestUnits_of_le (by decide)
      _ < 0 := by omega

/-- What has a mantissa and a shift is a double exactly where it is less than `2 ^ 2098` units. -/
theorem Canonical.lt_iff {m s : Nat} (form : Canonical m s) : m * twoTo s < twoTo 2098 ↔ s ≤ maxShift := by
  constructor
  · intro less
    refine Nat.le_of_not_lt fun (beyond : 2045 < s) => absurd less (Nat.not_lt.2 ?_)
    calc twoTo 2098
      _ = twoTo 52 * twoTo 2046 := twoTo_add 52 2046
      _ ≤ m * twoTo s := Nat.mul_le_mul (form.normal (by omega)) (twoTo_le beyond)
  · intro (within : s ≤ 2045)
    calc m * twoTo s
      _ < twoTo 53 * twoTo s := Nat.mul_lt_mul_of_pos_right form.below (twoTo_pos s)
      _ ≤ twoTo 53 * twoTo 2045 := Nat.mul_le_mul_left _ (twoTo_le within)
      _ = twoTo 2098 := (twoTo_add 53 2045).symm

/-- The whole numbers below the bound are those that are rounded to less than `2 ^ 2098` units. -/
theorem nearest_lt_iff (n : Int) : nearest (n.natAbs * unitsPerOne) < twoTo 2098 ↔ InRange n := by
  have largest : nearest ((twoTo 1024 - twoTo 970 - 1) * unitsPerOne) < twoTo 2098 := by decide +kernel
  have tooLarge : twoTo 2098 ≤ nearest ((twoTo 1024 - twoTo 970) * unitsPerOne) := by decide +kernel
  constructor
  · intro less
    refine Nat.lt_of_not_le fun beyond => absurd less (Nat.not_lt.2 ?_)
    exact tooLarge.trans (nearest_mono (Nat.mul_le_mul_right _ beyond))
  · intro inRange
    exact (nearest_mono (Nat.mul_le_mul_right _ (Nat.le_sub_one_of_lt inRange))).trans_lt largest

/-- A whole number in range becomes the double on its nearest point. -/
theorem ofInt_of_inRange {n : Int} (inRange : InRange n) : ∃ mantissa shift, Canonical mantissa shift ∧
    mantissa * twoTo shift = nearest (n.natAbs * unitsPerOne) ∧
    ofInt n = some (.finite (n < 0) mantissa shift) := by
  obtain ⟨m, s, form, onPoint, rounded⟩ := roundUnits_one (n < 0) (n.natAbs * unitsPerOne)
  have within : s ≤ maxShift := by rwa [← form.lt_iff, onPoint, nearest_lt_iff]
  refine ⟨m, s, form, onPoint, ?_⟩
  rw [ofInt, ofRatio, rounded, if_neg (Nat.not_lt.2 within)]
  rfl

/-- Any other whole number has no double. -/
theorem ofInt_of_not_inRange {n : Int} (beyond : ¬ InRange n) : ofInt n = none := by
  obtain ⟨m, s, form, onPoint, rounded⟩ := roundUnits_one (n < 0) (n.natAbs * unitsPerOne)
  have tooFar : maxShift < s := by rwa [← Nat.not_le, ← form.lt_iff, onPoint, nearest_lt_iff]
  rw [ofInt, ofRatio, rounded, if_pos tooFar]
  rfl

theorem units_of_nearest {n : Int} {mantissa shift : Nat}
    (onPoint : mantissa * twoTo shift = nearest (n.natAbs * unitsPerOne)) :
    units (n < 0) mantissa shift = nearestUnits n := by
  unfold units nearestUnits
  rw [onPoint]
  simp only [decide_eq_true_eq]

/-- Two numbers in range have one double where they have one nearest number of units. -/
theorem ofInt_inj_iff {a b : Int} (left : InRange a) (right : InRange b) :
    ofInt a = ofInt b ↔ nearestUnits a = nearestUnits b := by
  obtain ⟨m, s, form, onPoint, rounded⟩ := ofInt_of_inRange left
  obtain ⟨m', s', form', onPoint', rounded'⟩ := ofInt_of_inRange right
  have units := units_of_nearest onPoint
  have units' := units_of_nearest onPoint'
  rw [rounded, rounded']
  constructor
  · intro same
    injection same with same
    injection same with negative mantissa shift
    rw [← units, ← units', negative, mantissa, shift]
  · intro same
    have negative : a < 0 ↔ b < 0 := by rw [← nearestUnits_neg_iff, same, nearestUnits_neg_iff]
    have sizes : m * twoTo s = m' * twoTo s' := by
      rw [onPoint, onPoint']
      unfold nearestUnits at same
      split_ifs at same <;> omega
    obtain ⟨rfl, rfl⟩ := form.unique form' sizes
    rw [decide_eq_decide.2 negative]

/-! ### Numbers that are doubles themselves -/

theorem inRange_of_le {n : Int} (small : n.natAbs ≤ twoTo 53) : InRange n :=
  Nat.lt_of_le_of_lt small (by decide +kernel)

/-- Numbers up to `2 ^ 53` that differ have doubles that differ. -/
theorem eq_of_ofInt_eq {a b : Int} (left : a.natAbs ≤ twoTo 53) (right : b.natAbs ≤ twoTo 53)
    (same : ofInt a = ofInt b) : a = b := by
  rw [ofInt_inj_iff (inRange_of_le left) (inRange_of_le right), nearestUnits_of_le left,
    nearestUnits_of_le right] at same
  have one : (unitsPerOne : Int) ≠ 0 := Int.ofNat_ne_zero.2 (twoTo_pos 1074).ne'
  exact Int.eq_of_mul_eq_mul_right one same

end Double

end Countersign
