/-
Module: Countersign.Proofs.Condition.Thresholds
Purpose: How conditions compare a fact that is an integer with an integer, of whatever size both are.
Main exports: Comparison.asks, Comparison.holds_int, Comparison.holds_int_of_order, Comparison.holds_beyond,
  Condition.meets, Condition.integer_thresholds
-/
import Countersign.Condition.Evaluation
import Countersign.Proofs.Number.Rounding

namespace Countersign

/-!
Equality looks at the integers themselves, and order at the doubles nearest to them. Since the nearest double keeps the
order, no two answers ever contradict each other: a fact is less than a threshold only where it is so as an integer. But
two integers may have one nearest double, and then neither is less than the other nor are they equal; and an integer
with no nearest double is in no order at all, so that the condition fails whichever of the four operators it has.
-/

/-- What an operator asks of two integers. -/
def Comparison.asks (operator : Comparison) (left right : Int) : Bool :=
  match operator with
  | equals => left == right
  | notEquals => left != right
  | greaterThan => right < left
  | lessThan => left < right
  | greaterOrEqual => right ≤ left
  | lessOrEqual => left ≤ right

/-! ### Doubles of integers -/

theorem readNumber_int (n : Int) : readNumber (.int n) = (Double.ofInt n).elim .tooLarge .number := by
  rw [readNumber]

theorem readNumber_of_not_inRange {n : Int} (beyond : ¬ Double.InRange n) : readNumber (.int n) = .tooLarge := by
  rw [readNumber_int, Double.ofInt_of_not_inRange beyond]
  rfl

theorem compareNumbers_of_numbers {test : Double → Double → Bool} {fact : Fact} {operand : Value} {x y : Double}
    (left : readFact fact = .number x) (right : readNumber operand = .number y) :
    compareNumbers test fact operand = test x y := by
  rw [compareNumbers, left, right]

theorem compareNumbers_of_tooLarge {test : Double → Double → Bool} {fact : Fact} {operand : Value}
    (tooLarge : readFact fact = .tooLarge ∨ readNumber operand = .tooLarge) :
    compareNumbers test fact operand = false := by
  unfold compareNumbers
  rcases tooLarge with left | right
  · rw [left]
  · rw [right]
    cases readFact fact <;> rfl

/-- Less or equal is not more, where both sides are finite. -/
theorem Double.le_finite (n n' : Bool) (m s m' s' : Nat) :
    (Double.finite n m s).le (.finite n' m' s') = decide (units n m s ≤ units n' m' s') := by
  rw [le, lt, eqv, beq_eq_decide, ← Bool.decide_or]
  exact decide_eq_decide.2 Int.le_iff_lt_or_eq.symm

namespace Comparison

/-- Equality and its negation are those of the integers. -/
theorem holds_int (operator : Comparison) (exact : operator.isOrder = false) (a b : Int) :
    operator.holds (some (.int a)) (.int b) = operator.asks a b := by
  cases operator with
  | equals => rfl
  | notEquals => rfl
  | _ => cases exact

/-- The four order operators ask of the nearest doubles what they ask of the integers. -/
theorem holds_int_of_order (operator : Comparison) (order : operator.isOrder = true) {a b : Int}
    (left : Double.InRange a) (right : Double.InRange b) :
    operator.holds (some (.int a)) (.int b) = operator.asks (Double.nearestUnits a) (Double.nearestUnits b) := by
  obtain ⟨m, s, -, onPoint, rounded⟩ := Double.ofInt_of_inRange left
  obtain ⟨m', s', -, onPoint', rounded'⟩ := Double.ofInt_of_inRange right
  have fact : readFact (some (.int a)) = .number (.finite (a < 0) m s) := by
    rw [readFact, readNumber_int, rounded]
    rfl
  have operand : readNumber (.int b) = .number (.finite (b < 0) m' s') := by
    rw [readNumber_int, rounded']
    rfl
  rw [← Double.units_of_nearest onPoint, ← Double.units_of_nearest onPoint']
  cases operator with
  | equals => cases order
  | notEquals => cases order
  | greaterThan => exact compareNumbers_of_numbers fact operand
  | lessThan => exact compareNumbers_of_numbers fact operand
  | greaterOrEqual => exact (compareNumbers_of_numbers fact operand).trans (Double.le_finite ..)
  | lessOrEqual => exact (compareNumbers_of_numbers fact operand).trans (Double.le_finite ..)

/-- An integer that has no double is in no order. -/
theorem holds_beyond (operator : Comparison) (order : operator.isOrder = true) {a b : Int}
    (beyond : ¬ (Double.InRange a ∧ Double.InRange b)) : operator.holds (some (.int a)) (.int b) = false := by
  have tooLarge : readFact (some (.int a)) = .tooLarge ∨ readNumber (.int b) = .tooLarge := by
    by_cases left : Double.InRange a
    · exact Or.inr (readNumber_of_not_inRange fun right => beyond ⟨left, right⟩)
    · exact Or.inl (readNumber_of_not_inRange left)
  cases operator with
  | equals => cases order
  | notEquals => cases order
  | _ => exact compareNumbers_of_tooLarge tooLarge

/-- The three operators of which one is expected to hold between any two numbers. -/
def trichotomy : List Comparison := [lessThan, equals, greaterThan]

/-- Between integers in range exactly one of the three holds, unless two different ones have one nearest double. -/
theorem countP_trichotomy_iff {a b : Int} (left : Double.InRange a) (right : Double.InRange b) :
    trichotomy.countP (fun operator => operator.holds (some (.int a)) (.int b)) = 1 ↔
      a = b ∨ Double.ofInt a ≠ Double.ofInt b := by
  have upward : a ≤ b → Double.nearestUnits a ≤ Double.nearestUnits b := Double.nearestUnits_mono
  have downward : b ≤ a → Double.nearestUnits b ≤ Double.nearestUnits a := Double.nearestUnits_mono
  rw [ne_eq, Double.ofInt_inj_iff left right]
  simp only [trichotomy, List.countP_cons, List.countP_nil, holds_int_of_order lessThan rfl left right,
    holds_int_of_order greaterThan rfl left right, holds_int equals rfl, asks,
    decide_eq_true_eq, beq_iff_eq]
  split_ifs <;> omega

/-- Where one of two integers has no double, only equality can hold. -/
theorem countP_trichotomy_beyond {a b : Int} (beyond : ¬ (Double.InRange a ∧ Double.InRange b)) :
    trichotomy.countP (fun operator => operator.holds (some (.int a)) (.int b)) = 1 ↔ a = b := by
  simp only [trichotomy, List.countP_cons, List.countP_nil, holds_beyond lessThan rfl beyond,
    holds_beyond greaterThan rfl beyond, holds_int equals rfl, asks, beq_iff_eq]
  simp

/-- An order that holds between the nearest doubles holds between the integers. -/
theorem asks_of_strict {operator : Comparison} (strict : operator = lessThan ∨ operator = greaterThan) {a b : Int}
    (holds : operator.holds (some (.int a)) (.int b) = true) : operator.asks a b = true := by
  have order : operator.isOrder = true := by rcases strict with rfl | rfl <;> rfl
  by_cases inRange : Double.InRange a ∧ Double.InRange b
  · rw [holds_int_of_order operator order inRange.1 inRange.2] at holds
    rcases strict with rfl | rfl
    all_goals
      simp only [asks, decide_eq_true_eq] at holds ⊢
      refine Int.lt_of_not_ge fun other => absurd holds (not_lt.2 (Double.nearestUnits_mono other))
  · rw [holds_beyond operator order inRange] at holds
    cases holds

/-- An operator and the one that is its negation on integers are negations of each other where both integers have a
nearest double, and nowhere else: beyond, both fail. -/
theorem holds_eq_not_iff {weak strict : Comparison} (weakOrder : weak.isOrder = true)
    (strictOrder : strict.isOrder = true) (opposite : ∀ x y, weak.asks x y = !strict.asks x y) (a b : Int) :
    weak.holds (some (.int a)) (.int b) = !strict.holds (some (.int a)) (.int b) ↔
      Double.InRange a ∧ Double.InRange b := by
  by_cases inRange : Double.InRange a ∧ Double.InRange b
  · rw [holds_int_of_order weak weakOrder inRange.1 inRange.2,
      holds_int_of_order strict strictOrder inRange.1 inRange.2]
    exact iff_of_true (opposite _ _) inRange
  · rw [holds_beyond weak weakOrder inRange, holds_beyond strict strictOrder inRange]
    exact iff_of_false Bool.false_ne_true inRange

end Comparison

namespace Condition

/-- Whether a field meets the condition that compares it with an integer. -/
def meets (facts : Fields) (field : String) (threshold : Int) (operator : Comparison) : Bool :=
  (compare field operator (.int threshold)).holds facts

theorem meets_of_int {facts : Fields} {field : String} {a : Int} (known : facts.get? field = some (.int a)) (b : Int) :
    meets facts field b = fun operator => operator.holds (some (.int a)) (.int b) := by
  funext operator
  rw [meets, holds, factOf, known]
  rfl

/-- An integer fact against an integer threshold. Equality is that of the integers, and a strict order holds only where
it holds between the integers, so of less, equal and greater at most one is met. Exactly one is met where the two are
equal or have different nearest doubles, as different integers up to `2 ^ 53` do. What is not less is greater or equal,
and what is not greater is less or equal, exactly where both have a nearest double; where one has none, no order is
met. -/
theorem integer_thresholds {facts : Fields} {field : String} {a : Int} (known : facts.get? field = some (.int a))
    (b : Int) :
    (meets facts field b .equals = true ↔ a = b) ∧
    (meets facts field b .lessThan = true → a < b) ∧
    (meets facts field b .greaterThan = true → b < a) ∧
    (Comparison.trichotomy.countP (meets facts field b) = 1 ↔
      a = b ∨ (Double.InRange a ∧ Double.InRange b) ∧ Double.ofInt a ≠ Double.ofInt b) ∧
    (a.natAbs ≤ Double.twoTo 53 → b.natAbs ≤ Double.twoTo 53 →
      Comparison.trichotomy.countP (meets facts field b) = 1) ∧
    (meets facts field b .greaterOrEqual = !meets facts field b .lessThan ↔
      Double.InRange a ∧ Double.InRange b) ∧
    (meets facts field b .lessOrEqual = !meets facts field b .greaterThan ↔
      Double.InRange a ∧ Double.InRange b) ∧
    (¬ (Double.InRange a ∧ Double.InRange b) →
      ∀ operator : Comparison, operator.isOrder = true → meets facts field b operator = false) := by
  rw [meets_of_int known b]
  have counted : Comparison.trichotomy.countP (fun operator => operator.holds (some (.int a)) (.int b)) = 1 ↔
      a = b ∨ (Double.InRange a ∧ Double.InRange b) ∧ Double.ofInt a ≠ Double.ofInt b := by
    by_cases inRange : Double.InRange a ∧ Double.InRange b
    · rw [Comparison.countP_trichotomy_iff inRange.1 inRange.2, and_iff_right inRange]
    · rw [Comparison.countP_trichotomy_beyond inRange, or_iff_left fun different => inRange different.1]
  refine ⟨?_, ?_, ?_, counted, ?_, ?_, ?_, ?_⟩
  · simp only [Comparison.holds_int .equals rfl, Comparison.asks, beq_iff_eq]
  · intro less
    simpa only [Comparison.asks, decide_eq_true_eq] using Comparison.asks_of_strict (Or.inl rfl) less
  · intro greater
    simpa only [Comparison.asks, decide_eq_true_eq] using Comparison.asks_of_strict (Or.inr rfl) greater
  · intro left right
    refine counted.2 (or_iff_not_imp_left.2 fun different => ⟨?_, mt (Double.eq_of_ofInt_eq left right) different⟩)
    exact ⟨Double.inRange_of_le left, Double.inRange_of_le right⟩
  · refine Comparison.holds_eq_not_iff rfl rfl (fun x y => ?_) a b
    simp only [Comparison.asks, ← not_lt, decide_not]
  · refine Comparison.holds_eq_not_iff rfl rfl (fun x y => ?_) a b
    simp only [Comparison.asks, ← not_lt, decide_not]
  · exact fun beyond operator order => Comparison.holds_beyond operator order beyond

end Condition

namespace Trial

def quantity (n : Int) : Fields := [("quantity", .int n)]

end Trial

namespace Condition

/-- The next integer after `2 ^ 53` has the double of `2 ^ 53`, so that this is neither less, equal nor greater; and ten
to the four hundredth has none, so that it is not greater than zero, nor less or equal. -/
theorem integer_thresholds_between_doubles :
    Comparison.trichotomy.countP (meets (Trial.quantity 9007199254740992) "quantity" 9007199254740993) ≠ 1 ∧
    meets (Trial.quantity (Double.tenTo 400)) "quantity" 0 .lessOrEqual ≠
      !meets (Trial.quantity (Double.tenTo 400)) "quantity" 0 .greaterThan := by
  constructor <;> decide +kernel

/-- A quantity of 250 is less than 300, and so less or equal. -/
theorem integer_thresholds_of_quantity :
    Fields.get? (Trial.quantity 250) "quantity" = some (.int 250) ∧
    (meets (Trial.quantity 250) "quantity" 300 .equals = true ↔ (250 : Int) = 300) ∧
    Comparison.trichotomy.countP (meets (Trial.quantity 250) "quantity" 300) = 1 ∧
    meets (Trial.quantity 250) "quantity" 300 .lessOrEqual =
      !meets (Trial.quantity 250) "quantity" 300 .greaterThan := by
  have known : Fields.get? (Trial.quantity 250) "quantity" = some (.int 250) := rfl
  obtain ⟨equals, -, -, -, small, -, weak, -⟩ := integer_thresholds known 300
  exact ⟨known, equals, small (by decide) (by decide), weak.2 (by decide +kernel)⟩

end Condition

end Countersign
