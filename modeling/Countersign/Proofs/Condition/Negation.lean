/-
Module: Countersign.Proofs.Condition.Negation
Purpose: Tests of membership as sets of equalities, and what becomes of a set of conditions when each is negated.
Main exports: Membership.holds_isIn, Condition.Negates, Condition.Negates.holds_eq, Combinator.dual,
  Combinator.holds_dual, Condition.negation_laws
-/
import Countersign.Condition.Evaluation
import Mathlib.Data.List.Forall2

namespace Countersign

/-!
A fact is looked at in two places, as one value that is compared and as one that may be a member. Both ask the same
question of each operand, and on an absent fact both answer it with no. So a fact is in a list where it equals one of
the members, and the operators come in pairs of which exactly one holds, whatever the fact is: absent, a number that is
not a number, or a list. What holds of single conditions goes over to sets of them, once these have a member.
-/

/-! ### Single operators -/

/-- A fact that is absent differs from everything, and any other one where it does not equal it. -/
theorem Comparison.holds_notEquals (fact : Fact) (operand : Value) :
    notEquals.holds fact operand = !equals.holds fact operand := by
  cases fact <;> rfl

namespace Membership

theorem holds_isOneOf (fact : Fact) (operands : List Value) :
    isOneOf.holds fact operands = isIn.holds fact operands := by
  cases fact <;> rfl

theorem holds_notIn (fact : Fact) (operands : List Value) : notIn.holds fact operands = !isIn.holds fact operands := by
  cases fact <;> rfl

/-- A fact is in a list where it equals a member. -/
theorem holds_isIn (fact : Fact) (operands : List Value) :
    isIn.holds fact operands = operands.any (Comparison.equals.holds fact) := by
  cases fact with
  | none =>
      have nowhere : operands.any (Comparison.equals.holds none) = false :=
        List.any_eq_false.2 fun _ _ => Bool.false_ne_true
      rw [nowhere]
      rfl
  | some v => rfl

end Membership

/-! ### Sets of conditions -/

namespace Combinator

/-- The other way to join. -/
def dual : Combinator → Combinator
  | all => any
  | any => all

/-- Results that are all turned round turn the other join round. -/
theorem join_dual (combinator : Combinator) {results : List Bool} (filled : results ≠ []) :
    combinator.dual.join (results.map (!·)) = !combinator.join results := by
  unfold join
  rw [if_neg (by simpa using filled), if_neg (by simpa using filled)]
  cases combinator with
  | all =>
      simp only [dual]
      rw [List.any_map, List.not_all_eq_any_not]
      rfl
  | any =>
      simp only [dual]
      rw [List.all_map, List.not_any_eq_all_not]
      rfl

theorem holds_any {conditions : List Condition} (filled : conditions ≠ []) (facts : Fields) :
    any.holds conditions facts = conditions.any (Condition.holds facts) := by
  rw [holds, join, if_neg (by simpa using filled), List.any_map]
  rfl

end Combinator

namespace Condition

/-- A condition and its negation: equality and inequality, and being in a list, by either of its two names, and not
being in it. -/
inductive Negates : Condition → Condition → Prop where
  | equals (field : String) (operand : Scalar) :
      Negates (compare field .equals operand) (compare field .notEquals operand)
  | notEquals (field : String) (operand : Scalar) :
      Negates (compare field .notEquals operand) (compare field .equals operand)
  | within (field : String) (operands : List Scalar) {operator : Membership} (positive : operator ≠ .notIn) :
      Negates (member field operator operands) (member field .notIn operands)
  | without (field : String) (operands : List Scalar) {operator : Membership} (positive : operator ≠ .notIn) :
      Negates (member field .notIn operands) (member field operator operands)

/-- Of a condition and its negation exactly one holds. -/
theorem Negates.holds_eq {condition negation : Condition} (negates : condition.Negates negation) (facts : Fields) :
    negation.holds facts = !condition.holds facts := by
  have positive {operator : Membership} (positive : operator ≠ .notIn) (fact : Fact) (operands : List Value) :
      operator.holds fact operands = Membership.isIn.holds fact operands := by
    cases operator with
    | isIn => rfl
    | isOneOf => exact Membership.holds_isOneOf fact operands
    | notIn => exact absurd rfl positive
  cases negates with
  | equals field operand => exact Comparison.holds_notEquals _ _
  | notEquals field operand => simp only [holds, Comparison.holds_notEquals, Bool.not_not]
  | within field operands known => simp only [holds, Membership.holds_notIn, positive known]
  | without field operands known => simp only [holds, Membership.holds_notIn, positive known, Bool.not_not]

end Condition

/-- A set of negations, joined the other way, holds exactly where the set of conditions does not. -/
theorem Combinator.holds_dual (combinator : Combinator) {conditions negations : List Condition}
    (filled : conditions ≠ []) (negated : List.Forall₂ Condition.Negates conditions negations) (facts : Fields) :
    combinator.dual.holds negations facts = !combinator.holds conditions facts := by
  have turned : negations.map (Condition.holds facts) = (conditions.map (Condition.holds facts)).map (!·) := by
    clear filled
    induction negated with
    | nil => rfl
    | cons here _ ih => rw [List.map_cons, here.holds_eq facts, ih, List.map_cons, List.map_cons]
  rw [holds, turned]
  exact join_dual combinator (by simpa using filled)

namespace Condition

/-- Being in a list of operands, by either name, is equality with one of them, and not being in it is inequality with
each. A set of conditions on equality and membership is turned round when each of them is negated and the set is joined
the other way. -/
theorem negation_laws (facts : Fields) :
    (∀ (field : String) (operands : List Scalar), operands ≠ [] →
      (member field .isIn operands).holds facts = (member field .isOneOf operands).holds facts ∧
      (member field .isIn operands).holds facts =
        Combinator.any.holds (operands.map (compare field .equals)) facts ∧
      (member field .notIn operands).holds facts =
        Combinator.all.holds (operands.map (compare field .notEquals)) facts) ∧
    ∀ (combinator : Combinator) (conditions negations : List Condition), conditions ≠ [] →
      List.Forall₂ Negates conditions negations →
      combinator.dual.holds negations facts = !combinator.holds conditions facts := by
  constructor
  · intro field operands filled
    have asOne : (member field .isIn operands).holds facts =
        Combinator.any.holds (operands.map (compare field .equals)) facts := by
      rw [Combinator.holds_any (by simpa using filled), List.any_map]
      exact (Membership.holds_isIn _ _).trans (List.any_map ..)
    refine ⟨(Membership.holds_isOneOf _ _).symm, asOne, ?_⟩
    -- Not being in the list is the negation of being in it, and each inequality that of an equality.
    have negated : List.Forall₂ Negates (operands.map (compare field .equals))
        (operands.map (compare field .notEquals)) := by
      rw [List.forall₂_map_left_iff, List.forall₂_map_right_iff, List.forall₂_same]
      exact fun operand _ => .equals field operand
    calc (member field .notIn operands).holds facts
      _ = !(member field .isIn operands).holds facts := Membership.holds_notIn _ _
      _ = !Combinator.any.holds (operands.map (compare field .equals)) facts := by rw [asOne]
      _ = _ := (Combinator.any.holds_dual (by simpa using filled) negated facts).symm
  · exact fun combinator conditions negations filled negated => combinator.holds_dual filled negated facts

end Condition

namespace Trial

/-- A quantity that is not a number, a flag and a region that is null. -/
def oddFacts : Fields := [("quantity", .float .nan), ("flag", .bool true), ("region", .null)]

/-- Conditions on them: the first does not hold, and the others do. -/
def oddConditions : List Condition :=
  [.compare "quantity" .equals (.float .nan), .member "flag" .notIn [.int 1, .text "true"],
    .compare "region" .notEquals (.text "EU")]

def oddNegations : List Condition :=
  [.compare "quantity" .notEquals (.float .nan), .member "flag" .isOneOf [.int 1, .text "true"],
    .compare "region" .equals (.text "EU")]

end Trial

/-- What is not a number is in no list, not even with itself, and so is not in it; and the set of odd conditions does
not hold while one of their negations does. -/
theorem Condition.negation_laws_of_odd :
    (member "quantity" .notIn [.float .nan, .int 0]).holds Trial.oddFacts = true ∧
    Combinator.all.holds [compare "quantity" .notEquals (.float .nan), compare "quantity" .notEquals (.int 0)]
      Trial.oddFacts = true ∧
    Combinator.all.holds Trial.oddConditions Trial.oddFacts = false ∧
    Combinator.any.holds Trial.oddNegations Trial.oddFacts = true := by
  obtain ⟨sets, turns⟩ := negation_laws Trial.oddFacts
  obtain ⟨-, -, apart⟩ := sets "quantity" [.float .nan, .int 0] (by simp)
  have outside : (member "quantity" .notIn [.float .nan, .int 0]).holds Trial.oddFacts = true := by decide +kernel
  have fails : Combinator.all.holds Trial.oddConditions Trial.oddFacts = false := by decide +kernel
  have turned := turns .all Trial.oddConditions Trial.oddNegations (by simp [Trial.oddConditions])
    (.cons (.equals ..) (.cons (.without _ _ (by decide)) (.cons (.notEquals ..) .nil)))
  exact ⟨outside, apart ▸ outside, fails, by rw [← Combinator.dual, turned, fails]; rfl⟩

end Countersign
