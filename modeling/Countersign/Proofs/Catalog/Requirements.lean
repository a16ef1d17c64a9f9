/-
Module: Countersign.Proofs.Catalog.Requirements
Purpose: In which order rules come, and what they demand together.
Main exports: Requirements.distinct_eq_eraseDups, Rule.Place.upTo_trans, Rule.Place.upTo_total, Rule.pairwise_ordered,
  Requirements.Demanded, Requirements.ofRules_demanded
-/
import Countersign.Rule.Requirements
import Mathlib.Data.List.Basic

namespace Countersign

/-!
Rules come by priority, and rules of one priority by their ids. What they demand together are the roles that they
name, each once and where it first comes, and each role answers for the rules that name it.
-/

/-! ### Names -/

theorem Requirements.foldl_addOnce (seen names : List String) :
    names.foldl addOnce seen = seen ++ (names.filter fun name => !seen.contains name).eraseDups := by
  induction names generalizing seen with
  | nil => simp
  | cons name rest ih =>
      rw [List.foldl_cons, ih]
      by_cases known : name ∈ seen
      · simp [addOnce, known]
      · have kept : (name :: rest).filter (fun name => !seen.contains name) =
            name :: rest.filter fun name => !seen.contains name := by simp [known]
        have later : (rest.filter fun other => !(seen ++ [name]).contains other) =
            (rest.filter fun other => !seen.contains other).filter fun other => !other == name := by
          rw [List.filter_filter]
          refine List.filter_congr fun other _ => ?_
          by_cases same : other = name <;> simp [same]
        rw [addOnce, if_neg (by simp [known]), kept, List.eraseDups_cons, later, List.append_assoc]
        rfl

/-- Names without repetitions are what is left when later repetitions are erased. -/
theorem Requirements.distinct_eq_eraseDups (names : List String) : distinct names = names.eraseDups := by
  rw [distinct, foldl_addOnce]
  simp

theorem nodup_eraseDups (names : List String) : names.eraseDups.Nodup := by
  induction length : names.length using Nat.strongRecOn generalizing names with
  | ind size ih =>
      cases names with
      | nil => simp
      | cons name rest =>
          have shorter : (rest.filter fun other => !other == name).length < size := by
            rw [← length]
            exact Nat.lt_succ_of_le (List.length_filter_le _ _)
          rw [List.eraseDups_cons, List.nodup_cons, List.mem_eraseDups]
          exact ⟨by simp, ih _ shorter _ rfl⟩

/-- Names that all differ are kept. -/
theorem eraseDups_of_nodup {names : List String} (nodup : names.Nodup) : names.eraseDups = names := by
  induction names with
  | nil => rfl
  | cons name rest ih =>
      obtain ⟨alone, others⟩ := List.nodup_cons.1 nodup
      have kept : rest.filter (fun other => !other == name) = rest := by
        rw [List.filter_eq_self]
        intro other within
        simpa using fun same : other = name => alone (same ▸ within)
      rw [List.eraseDups_cons, kept, ih others]

/-! ### The order of rules -/

namespace Text

theorem orderCodes_cons_iff {first other : Nat} {rest others : List Nat} :
    orderCodes (first :: rest) (other :: others) ≠ .gt ↔
      first < other ∨ first = other ∧ orderCodes rest others ≠ .gt := by
  rw [orderCodes]
  split
  · next same => simp [same]
  · next different =>
      rw [Nat.compare_ne_gt]
      simp only [different, false_and, or_false]
      omega

/-- Of two rows of code points one comes first, or they are the same. -/
theorem orderCodes_total (one two : List Nat) : orderCodes one two ≠ .gt ∨ orderCodes two one ≠ .gt := by
  induction one generalizing two with
  | nil => cases two <;> simp [orderCodes]
  | cons first rest ih =>
      cases two with
      | nil => simp [orderCodes]
      | cons other others =>
          rw [orderCodes_cons_iff, orderCodes_cons_iff]
          rcases Nat.lt_trichotomy first other with less | same | more
          · exact Or.inl (Or.inl less)
          · exact (ih others).imp (fun early => Or.inr ⟨same, early⟩) fun late => Or.inr ⟨same.symm, late⟩
          · exact Or.inr (Or.inl more)

theorem orderCodes_trans {one two three : List Nat} (early : orderCodes one two ≠ .gt)
    (late : orderCodes two three ≠ .gt) : orderCodes one three ≠ .gt := by
  induction one generalizing two three with
  | nil => cases three <;> simp [orderCodes]
  | cons first rest ih =>
      cases two with
      | nil => simp [orderCodes] at early
      | cons second others =>
          cases three with
          | nil => simp [orderCodes] at late
          | cons third last =>
              rw [orderCodes_cons_iff] at early late ⊢
              rcases early with less | ⟨same, early⟩ <;> rcases late with less' | ⟨same', late⟩
              · exact Or.inl (by omega)
              · exact Or.inl (by omega)
              · exact Or.inl (by omega)
              · exact Or.inr ⟨same.trans same', ih early late⟩

theorem upTo_iff {s t : String} : upTo s t = true ↔ orderCodes (codes s) (codes t) ≠ .gt := by
  simp [upTo, order]

theorem upTo_trans {s t u : String} (early : upTo s t = true) (late : upTo t u = true) : upTo s u = true :=
  upTo_iff.2 (orderCodes_trans (upTo_iff.1 early) (upTo_iff.1 late))

theorem upTo_total (s t : String) : upTo s t = true ∨ upTo t s = true :=
  (orderCodes_total (codes s) (codes t)).imp upTo_iff.2 upTo_iff.2

end Text

namespace Rule

/-- A place among rules: a priority and an id. -/
abbrev Place := Int × String

namespace Place

variable {one two three : Place}

/-- Whether a place comes no later than another: by priority, then by id. -/
def upTo (one two : Place) : Bool := one.1 < two.1 || (one.1 == two.1 && Text.upTo one.2 two.2)

theorem upTo_iff : upTo one two = true ↔ one.1 < two.1 ∨ one.1 = two.1 ∧ Text.upTo one.2 two.2 = true := by
  simp [upTo]

theorem upTo_trans (early : upTo one two = true) (late : upTo two three = true) : upTo one three = true := by
  rw [upTo_iff] at early late ⊢
  rcases early with less | ⟨same, early⟩ <;> rcases late with less' | ⟨same', late⟩
  · exact Or.inl (by omega)
  · exact Or.inl (by omega)
  · exact Or.inl (by omega)
  · exact Or.inr ⟨same.trans same', Text.upTo_trans early late⟩

theorem upTo_total (one two : Place) : (upTo one two || upTo two one) = true := by
  rw [Bool.or_eq_true, upTo_iff, upTo_iff]
  rcases Int.lt_trichotomy one.1 two.1 with less | same | more
  · exact Or.inl (Or.inl less)
  · exact (Text.upTo_total one.2 two.2).imp (fun early => Or.inr ⟨same, early⟩) fun late => Or.inr ⟨same.symm, late⟩
  · exact Or.inr (Or.inl more)

end Place

/-- Where a rule stands among rules. -/
def place (rule : Rule) : Place := (rule.priority, rule.id)

theorem before_eq (first second : Rule) : first.before second = first.place.upTo second.place := rfl

/-- Rules that are tried are all rules, in order. -/
theorem perm_ordered (rules : List Rule) : (ordered rules).Perm rules := List.mergeSort_perm rules before

theorem pairwise_ordered (rules : List Rule) :
    (ordered rules).Pairwise fun first second => first.before second = true :=
  @List.pairwise_mergeSort _ before
    (fun one two three => @Place.upTo_trans one.place two.place three.place)
    (fun one two => Place.upTo_total one.place two.place) rules

/-- The rules that hold are tried in this order. -/
theorem matching_perm (rules : List Rule) (facts : Fields) :
    (matching rules facts).Perm (rules.filter (triggeredBy facts)) := (perm_ordered rules).filter _

theorem pairwise_matching (rules : List Rule) (facts : Fields) :
    (matching rules facts).Pairwise fun first second => first.before second = true := (pairwise_ordered rules).filter _

end Rule

/-! ### What rules demand together -/

namespace Requirements

/-- What is demanded by some rules, one after the other. -/
structure Demanded (requirements : Requirements) (rules : List Rule) : Prop where
  approvers : requirements.approvers = (rules.flatMap (·.approvers)).eraseDups
  ruleTriggered : requirements.ruleTriggered = " + ".intercalate (rules.map (·.name))
  roleToRules : requirements.roleToRules = requirements.approvers.map fun role =>
    (role, ((rules.filter (·.approvers.contains role)).map (·.name)).eraseDups)
  matchedRuleIds : requirements.matchedRuleIds = rules.map (·.id)

theorem ofRules_demanded (rules : List Rule) : (ofRules rules).Demanded rules where
  approvers := distinct_eq_eraseDups _
  ruleTriggered := rfl
  roleToRules := List.map_congr_left fun _ _ => congrArg _ (distinct_eq_eraseDups _)
  matchedRuleIds := rfl

end Requirements

end Countersign
