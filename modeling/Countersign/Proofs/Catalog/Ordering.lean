/-
Module: Countersign.Proofs.Catalog.Ordering
Purpose: The rules that hold come in one order, whatever order the catalog is in, and more rules never demand less.
Main exports: Text.orderCodes_swap, Text.Kept, Rule.Apart, Rule.apart_iff_nodup, Rule.Precedes, Rule.Apart.eq_of_perm,
  Rule.matching_canonical
-/
import Countersign.Proofs.Catalog.Attribution
import Mathlib.Data.List.Nodup

namespace Countersign

/-!
Ids are told apart by their code points, as all texts are: texts that are kept for code points are equal just when
these are. Where no two rules of a catalog share an id, of any two of them one precedes the other, so there is one way
alone in which they can stand in order. Which rules hold hangs on each rule by itself, and so do the roles that it
demands; nothing that is added to a catalog takes a role away.
-/

namespace Text

/-- Two rows of code points that change places change their order. -/
theorem orderCodes_swap (one two : List Nat) : (orderCodes one two).swap = orderCodes two one := by
  induction one generalizing two with
  | nil => cases two <;> rfl
  | cons first rest ih =>
      cases two with
      | nil => rfl
      | cons other others =>
          rw [orderCodes, orderCodes]
          by_cases same : first = other
          · rw [if_pos same, if_pos same.symm, ih]
          · rw [if_neg same, if_neg fun equal => same equal.symm, Nat.compare_swap]

theorem order_swap (s t : String) : (order s t).swap = order t s := orderCodes_swap _ _

/-- Rows of code points that no place tells apart are the same. -/
theorem eq_of_orderCodes {one two : List Nat} (level : orderCodes one two = .eq) : one = two := by
  induction one generalizing two with
  | nil =>
      cases two with
      | nil => rfl
      | cons other others => cases level
  | cons first rest ih =>
      cases two with
      | nil => cases level
      | cons other others =>
          rw [orderCodes] at level
          split at level
          · next same => rw [same, ih level]
          · next different => exact absurd (Nat.compare_eq_eq.1 level) different

/-- Of texts with other code points the one that comes no later comes earlier. -/
theorem order_lt {s t : String} (early : upTo s t = true) (different : codes s ≠ codes t) : order s t = .lt := by
  have upward : order s t ≠ .gt := by simpa [upTo] using early
  cases ordered : order s t with
  | lt => rfl
  | eq => exact absurd (eq_of_orderCodes ordered) different
  | gt => exact absurd ordered upward

theorem codes_eq_of_upTo {s t : String} (early : upTo s t = true) (late : upTo t s = true) : codes s = codes t := by
  by_contra different
  have backward : order t s = .gt := by rw [← order_swap, order_lt early different]; rfl
  simp [upTo, backward] at late

/-- Texts that are kept for code points. -/
def Kept (s : String) : Prop := ∃ row, (∀ code ∈ row, code ≤ 0x10ffff) ∧ ofCodes row = s

theorem Kept.codes_inj {s t : String} (one : Kept s) (two : Kept t) : codes s = codes t ↔ s = t := by
  obtain ⟨row, known, rfl⟩ := one
  obtain ⟨other, knownOther, rfl⟩ := two
  rw [codes_ofCodes row known, codes_ofCodes other knownOther]
  refine ⟨fun same => congrArg ofCodes same, fun same => ?_⟩
  rw [← codes_ofCodes row known, same, codes_ofCodes other knownOther]

end Text

namespace Rule

/-! ### Rules that are told apart -/

/-- No two of some rules have the same id. -/
def Apart (rules : List Rule) : Prop := (rules.map fun rule => Text.codes rule.id).Nodup

instance (rules : List Rule) : Decidable (Apart rules) := inferInstanceAs (Decidable (List.Nodup _))

/-- Rules are told apart where their ids differ. -/
theorem apart_iff_nodup {rules : List Rule} (kept : ∀ rule ∈ rules, Text.Kept rule.id) :
    Apart rules ↔ (rules.map (·.id)).Nodup := by
  rw [Apart, List.Nodup, List.Nodup, List.pairwise_map, List.pairwise_map]
  exact List.Pairwise.iff_of_mem fun here there => not_congr ((kept _ here).codes_inj (kept _ there))

/-- Whether a rule comes in front of another: by priority, and of rules of one priority by id. -/
def Precedes (first second : Rule) : Prop :=
  first.priority < second.priority ∨ first.priority = second.priority ∧ Text.order first.id second.id = .lt

/-- Two rules each of which comes no later than the other have one id. -/
theorem codes_eq_of_before {first second : Rule} (early : first.before second = true)
    (late : second.before first = true) : Text.codes first.id = Text.codes second.id := by
  rw [before_eq, Place.upTo_iff] at early late
  rcases early with less | ⟨same, early⟩
  · rcases late with more | ⟨same, -⟩
    · exact absurd less (Int.lt_asymm more)
    · exact absurd less (same ▸ Int.lt_irrefl _)
  · rcases late with more | ⟨-, late⟩
    · exact absurd more (same ▸ Int.lt_irrefl _)
    · exact Text.codes_eq_of_upTo early late

theorem precedes_of_before {first second : Rule} (early : first.before second = true)
    (different : Text.codes first.id ≠ Text.codes second.id) : first.Precedes second := by
  rw [before_eq, Place.upTo_iff] at early
  exact early.imp_right fun ⟨same, upTo⟩ => ⟨same, Text.order_lt upTo different⟩

namespace Apart

variable {rules others : List Rule}

theorem perm (apart : Apart rules) (perm : others.Perm rules) : Apart others :=
  (perm.map fun rule : Rule => Text.codes rule.id).nodup_iff.2 apart

theorem sublist (apart : Apart rules) (part : others.Sublist rules) : Apart others :=
  List.Nodup.sublist (part.map _) apart

theorem nodup (apart : Apart rules) : rules.Nodup := List.Nodup.of_map _ apart

/-- Rules that are told apart and stand in order precede each other. -/
theorem precedes (apart : Apart rules) (ordered : rules.Pairwise fun first second => first.before second = true) :
    rules.Pairwise Precedes :=
  (ordered.and (List.pairwise_map.1 apart)).imp fun both => precedes_of_before both.1 both.2

/-- Rules that are told apart stand in order in one way alone. -/
theorem eq_of_perm (apart : Apart rules) (perm : rules.Perm others)
    (one : rules.Pairwise fun first second => first.before second = true)
    (two : others.Pairwise fun first second => first.before second = true) : rules = others :=
  perm.eq_of_pairwise (fun _ _ here there early late =>
    List.inj_on_of_nodup_map apart here (perm.mem_iff.2 there) (codes_eq_of_before early late)) one two

end Apart

/-! ### The rules that hold -/

variable {rules : List Rule}

/-- Rules that stand in order are tried as they stand. -/
theorem matching_of_pairwise (ordered : rules.Pairwise fun first second => first.before second = true)
    (facts : Fields) : matching rules facts = rules.filter (triggeredBy facts) :=
  congrArg (List.filter (triggeredBy facts)) (List.mergeSort_of_pairwise ordered)

/-- The rules that hold are those that are enabled and whose conditions hold. -/
theorem mem_matching_iff {facts : Fields} {rule : Rule} :
    rule ∈ matching rules facts ↔
      rule ∈ rules ∧ rule.enabled = true ∧ rule.combinator.holds rule.conditions facts = true := by
  rw [(matching_perm rules facts).mem_iff, List.mem_filter, triggeredBy, Bool.and_eq_true]

theorem Apart.matching (apart : Apart rules) (facts : Fields) : Apart (Rule.matching rules facts) :=
  (apart.sublist List.filter_sublist).perm (matching_perm rules facts)

/-- More rules demand all the roles that fewer do. -/
theorem approvers_matching_mono {larger : List Rule} (more : ∀ rule ∈ rules, rule ∈ larger) (facts : Fields) :
    ∀ role ∈ (Requirements.ofRules (matching rules facts)).approvers,
      role ∈ (Requirements.ofRules (matching larger facts)).approvers := by
  intro role demanded
  obtain ⟨rule, member, names⟩ := Requirements.mem_approvers_iff.1 demanded
  obtain ⟨within, holds⟩ := mem_matching_iff.1 member
  exact Requirements.mem_approvers_iff.2 ⟨rule, mem_matching_iff.2 ⟨more rule within, holds⟩, names⟩

/-- Of rules that are told apart, those that hold on facts are exactly the enabled ones whose conditions hold, each of
them once and one preceding the next; they are the same in whatever order the rules are given; and the roles that they
demand are demanded by every larger catalog too. -/
theorem matching_canonical (apart : Apart rules) (facts : Fields) :
    (∀ rule, rule ∈ matching rules facts ↔
      rule ∈ rules ∧ rule.enabled = true ∧ rule.combinator.holds rule.conditions facts = true) ∧
    (matching rules facts).Nodup ∧
    (matching rules facts).Pairwise Precedes ∧
    (∀ others : List Rule, others.Perm rules → matching others facts = matching rules facts) ∧
    (∀ larger : List Rule, (∀ rule ∈ rules, rule ∈ larger) →
      ∀ role ∈ (Requirements.ofRules (matching rules facts)).approvers,
        role ∈ (Requirements.ofRules (matching larger facts)).approvers) := by
  refine ⟨fun rule => mem_matching_iff, (apart.matching facts).nodup,
    (apart.matching facts).precedes (pairwise_matching rules facts), fun others perm => ?_,
    fun larger more => approvers_matching_mono more facts⟩
  have same : (matching others facts).Perm (matching rules facts) :=
    (matching_perm others facts).trans ((perm.filter _).trans (matching_perm rules facts).symm)
  exact ((apart.perm perm).matching facts).eq_of_perm same (pairwise_matching others facts)
    (pairwise_matching rules facts)

end Rule

namespace Trial

/-- A rule for formula pricing. -/
def formulaRule (id : String) (priority : Int) (enabled : Bool) (role : String) : Rule where
  id
  name := id
  description := none
  priority
  enabled
  combinator := .all
  conditions := [.compare "pricing_type" .equals (.text "Formula")]
  approvers := [role]
  createdAt := ⟨0, none⟩
  updatedAt := ⟨0, none⟩

/-- Three rules that are enabled, two of them of one priority, and one that is not, in order. -/
def formulaRules : List Rule :=
  [formulaRule "RULE-d" 0 false "Operations", formulaRule "RULE-b" 1 true "Hedging", formulaRule "RULE-a" 5 true "CFO",
    formulaRule "RULE-c" 5 true "CFO"]

/-- A ticket with formula pricing. -/
def formulaFacts : Fields := [("pricing_type", .text "Formula")]

end Trial

namespace Rule

/-- The disabled rule is left out, the others come by priority and id even where they are given the other way round, and
a further rule leaves their roles demanded. -/
theorem matching_canonical_of_formulaRules :
    Apart Trial.formulaRules ∧
      (matching Trial.formulaRules.reverse Trial.formulaFacts).map (·.id) = ["RULE-b", "RULE-a", "RULE-c"] ∧
      "Hedging" ∈ (Requirements.ofRules (matching (Trial.formulaRule "RULE-0" (-1) true "Legal" :: Trial.formulaRules)
        Trial.formulaFacts)).approvers := by
  have apart : Apart Trial.formulaRules := by decide +kernel
  have tried : matching Trial.formulaRules Trial.formulaFacts =
      Trial.formulaRules.filter (triggeredBy Trial.formulaFacts) := matching_of_pairwise (by decide +kernel) _
  obtain ⟨-, -, -, canonical, grows⟩ := matching_canonical apart Trial.formulaFacts
  refine ⟨apart, ?_, grows _ (fun rule member => List.mem_cons_of_mem _ member) "Hedging" ?_⟩
  · rw [canonical _ (List.reverse_perm _), tried]
    decide +kernel
  · rw [tried]
    decide +kernel

end Rule

end Countersign
