/-
Module: Countersign.Proofs.Ticket.Facts
Purpose: Which facts a ticket derives, and which of them its own fields can supply.
Main exports: Ticket.derived?, Ticket.get?_facts, Ticket.facts_eq_iff_copied, Ticket.facts_agree_iff
-/
import Countersign.Condition.Evaluation
import Countersign.Proofs.Store.Documents
import Countersign.Ticket.Facts

namespace Countersign

/-!
The facts of a ticket stand under one set of names: those copied from its fields, and four that are derived. A derived
fact is put over a field of the same name, but only where there is something to derive: a company with a text, or an
event and a timing. Where there is nothing, a field of that name is the fact. So the fields of these names tell in the
facts exactly where the ticket derives nothing under them, and for the fourth, which is always derived, never.
-/

namespace Ticket

variable {fields facts : Fields}

/-! ### One step of building at a time -/

/-- What is copied is the fact that each field is. -/
theorem get?_copiedFacts (unique : fields.names.Nodup) (name : String) :
    (copiedFacts fields).get? name = (fields.get? name).bind fieldFact? := by
  induction fields with
  | nil => rfl
  | cons field rest ih =>
      obtain ⟨key, v⟩ := field
      obtain ⟨alone, others⟩ := List.nodup_cons.1 unique
      have onward := ih others
      by_cases same : key = name
      · subst same
        rw [Fields.get?_eq_none_iff.2 alone] at onward
        cases fact : fieldFact? v with
        | none => simpa [copiedFacts, fact] using onward
        | some w => simp [copiedFacts, fact]
      · rw [Fields.get?_cons, if_neg same, ← onward]
        cases fact : fieldFact? v <;> simp [copiedFacts, fact, same]

theorem get?_adjust (name other : String) (f : Value → Value) :
    (adjust name f facts).get? other = if name = other then (facts.get? other).map f else facts.get? other := by
  by_cases same : name = other
  · subst same
    cases found : facts.get? name <;> simp [adjust, found, Fields.get?_put]
  · cases found : facts.get? name <;> simp [adjust, found, Fields.get?_put, same]

/-- A fact put under a name, if there is one to put. -/
def putGiven (name : String) (found : Option Value) (facts : Fields) : Fields :=
  match found with
  | some v => facts.put name v
  | none => facts

theorem get?_putGiven (name other : String) (found : Option Value) :
    (putGiven name found facts).get? other =
      if name = other then found.or (facts.get? other) else facts.get? other := by
  cases found with
  | none => simp [putGiven]
  | some v => exact Fields.get?_put facts name other v

/-- The event and the timing together, when both are given. -/
def trigger? (facts : Fields) : Option Value :=
  match facts.get? "payment_trigger_event", facts.get? "payment_trigger_timing" with
  | some event, some timing =>
      if event.truthy && timing.truthy then some (.text s!"{event.display}_{timing.display}") else none
  | _, _ => none

theorem withTrigger_eq (facts : Fields) :
    withTrigger facts = putGiven "payment_trigger_combined" (trigger? facts) facts := by
  unfold withTrigger trigger?
  cases facts.get? "payment_trigger_event" with
  | none => rfl
  | some event =>
      cases facts.get? "payment_trigger_timing" with
      | none => rfl
      | some timing =>
          dsimp only
          split <;> rfl

/-- A text of the company, when it is not empty. -/
def given? (found : Option String) : Option Value :=
  match found with
  | some s => if s.isEmpty then none else some (.text s)
  | none => none

theorem withCompanyText_eq (name : String) (found : Option String) (facts : Fields) :
    withCompanyText name found facts = putGiven name (given? found) facts := by
  cases found with
  | none => rfl
  | some s =>
      dsimp only [withCompanyText, given?]
      split <;> rfl

theorem get?_withCompany (company : Option Company) (name : String) :
    (withCompany company facts).get? name =
      if "company_risk_rating" = name then (given? (company.bind (·.riskRating))).or (facts.get? name)
      else if "company_kyb_status" = name then (given? (company.bind (·.kybStatus))).or (facts.get? name)
      else facts.get? name := by
  unfold withCompany
  cases company with
  | none => simp [given?]
  | some company =>
      dsimp only [Option.bind_some]
      rw [withCompanyText_eq, withCompanyText_eq, get?_putGiven, get?_putGiven]
      split
      · next same => rw [if_neg (by rw [← same]; decide)]
      · rfl

/-! ### Copied and derived facts -/

/-- The names of derived facts. -/
def derivedNames : List String :=
  ["payment_trigger_combined", "company_kyb_status", "company_risk_rating", "formula_b2b_lme"]

theorem mem_derivedNames_iff {name : String} : name ∈ derivedNames ↔ name = "payment_trigger_combined" ∨
    name = "company_kyb_status" ∨ name = "company_risk_rating" ∨ name = "formula_b2b_lme" := by
  simp [derivedNames]

theorem not_mem_derivedNames_iff {name : String} : name ∉ derivedNames ↔ name ≠ "payment_trigger_combined" ∧
    name ≠ "company_kyb_status" ∧ name ≠ "company_risk_rating" ∧ name ≠ "formula_b2b_lme" := by
  rw [mem_derivedNames_iff, not_or, not_or, not_or]

/-- The fact that a field of a ticket is under its name, brought to one spelling. -/
def copied? (ticket : Ticket) (name : String) : Option Value :=
  let fact := (ticket.fields.get? name).bind fieldFact?
  if "transaction_type" = name then fact.map normalizeType
  else if "lme_action_needed" = name then fact.map normalizeYesNo
  else fact

/-- The copied facts of a ticket. -/
def copies (ticket : Ticket) : Fields :=
  adjust "transaction_type" normalizeType (adjust "lme_action_needed" normalizeYesNo (copiedFacts ticket.fields))

/-- The fact that a ticket derives under a name, if it derives one. -/
def derived? (ticket : Ticket) (name : String) : Option Value :=
  if "payment_trigger_combined" = name then trigger? ticket.copies
  else if "company_kyb_status" = name then given? (ticket.company.bind (·.kybStatus))
  else if "company_risk_rating" = name then given? (ticket.company.bind (·.riskRating))
  else if "formula_b2b_lme" = name then some (.bool (isFormulaDeal ticket.copies))
  else none

variable {ticket one two : Ticket}

theorem get?_copies (unique : ticket.fields.names.Nodup) (name : String) :
    ticket.copies.get? name = ticket.copied? name := by
  unfold copied?
  rw [copies, get?_adjust, get?_adjust, get?_copiedFacts unique]
  split
  · next same => rw [if_neg (by rw [← same]; decide)]
  · rfl

/-- Under a name that nothing is derived for a ticket derives nothing. -/
theorem derived?_of_other {name : String} (other : name ∉ derivedNames) : ticket.derived? name = none := by
  obtain ⟨trigger, status, rating, deal⟩ := not_mem_derivedNames_iff.1 other
  unfold derived?
  rw [if_neg (Ne.symm trigger), if_neg (Ne.symm status), if_neg (Ne.symm rating), if_neg (Ne.symm deal)]

/-- A deal is told by facts that nothing is derived for. -/
theorem isFormulaDeal_congr {others : Fields}
    (alike : ∀ name ∈ ["pricing_type", "transaction_type", "lme_action_needed"], facts.get? name = others.get? name) :
    isFormulaDeal facts = isFormulaDeal others := by
  simp only [isFormulaDeal, isText, alike "pricing_type" (by decide), alike "transaction_type" (by decide),
    alike "lme_action_needed" (by decide)]

/-- A fact of a ticket is the one that it derives, and where it derives none the one that its field is. -/
theorem get?_facts (unique : ticket.fields.names.Nodup) (name : String) :
    ticket.facts.get? name = (ticket.derived? name).or (ticket.copied? name) := by
  have found (other : String) : (withCompany ticket.company (withTrigger ticket.copies)).get? other =
      if "company_risk_rating" = other then (given? (ticket.company.bind (·.riskRating))).or (ticket.copied? other)
      else if "company_kyb_status" = other then (given? (ticket.company.bind (·.kybStatus))).or (ticket.copied? other)
      else if "payment_trigger_combined" = other then (trigger? ticket.copies).or (ticket.copied? other)
      else ticket.copied? other := by
    rw [get?_withCompany, withTrigger_eq, get?_putGiven, get?_copies unique]
    split
    · next same => rw [if_neg (by rw [← same]; decide)]
    · split
      · next same => rw [if_neg (by rw [← same]; decide)]
      · rfl
  have deal : isFormulaDeal (withCompany ticket.company (withTrigger ticket.copies)) = isFormulaDeal ticket.copies := by
    refine isFormulaDeal_congr fun other within => ?_
    rw [found, get?_copies unique]
    simp only [List.mem_cons, List.not_mem_nil, or_false] at within
    rcases within with rfl | rfl | rfl <;> simp
  change ((withCompany ticket.company (withTrigger ticket.copies)).put "formula_b2b_lme"
    (.bool (isFormulaDeal (withCompany ticket.company (withTrigger ticket.copies))))).get? name = _
  rw [Fields.get?_put, found, deal]
  by_cases within : name ∈ derivedNames
  · unfold derived?
    rcases mem_derivedNames_iff.1 within with rfl | rfl | rfl | rfl <;> simp
  · rw [derived?_of_other within]
    obtain ⟨trigger, status, rating, deal⟩ := not_mem_derivedNames_iff.1 within
    rw [if_neg (Ne.symm deal), if_neg (Ne.symm rating), if_neg (Ne.symm status), if_neg (Ne.symm trigger)]
    rfl

/-! ### Two tickets -/

section Congruence

variable (uniqueOne : one.fields.names.Nodup) (uniqueTwo : two.fields.names.Nodup)
  (status : one.company.bind (·.kybStatus) = two.company.bind (·.kybStatus))
  (rating : one.company.bind (·.riskRating) = two.company.bind (·.riskRating))

include uniqueOne uniqueTwo status rating

/-- What a ticket derives hangs on what it copies under other names, and on two texts of its company. -/
theorem derived?_congr (copied : ∀ name, name ∉ derivedNames → one.copied? name = two.copied? name) (name : String) :
    one.derived? name = two.derived? name := by
  have copies (name : String) (other : name ∉ derivedNames) : one.copies.get? name = two.copies.get? name := by
    rw [get?_copies uniqueOne, get?_copies uniqueTwo, copied name other]
  have trigger : trigger? one.copies = trigger? two.copies := by
    rw [trigger?, trigger?, copies "payment_trigger_event" (by decide),
      copies "payment_trigger_timing" (by decide)]
  have deal : isFormulaDeal one.copies = isFormulaDeal two.copies := by
    refine isFormulaDeal_congr fun name within => copies name ?_
    simp only [List.mem_cons, List.not_mem_nil, or_false] at within
    rcases within with rfl | rfl | rfl <;> decide
  unfold Ticket.derived?
  rw [status, rating, trigger, deal]

/-- Two tickets with these texts alike have the same facts where they copy the same, but for what they derive. -/
theorem facts_eq_iff_copied : (∀ name, one.facts.get? name = two.facts.get? name) ↔
    ∀ name, (one.derived? name).isSome = true ∨ one.copied? name = two.copied? name := by
  have fact (name : String) : one.facts.get? name = two.facts.get? name ↔
      (one.derived? name).or (one.copied? name) = (two.derived? name).or (two.copied? name) := by
    rw [get?_facts uniqueOne, get?_facts uniqueTwo]
  have derived (copied : ∀ name, name ∉ derivedNames → one.copied? name = two.copied? name) :=
    derived?_congr uniqueOne uniqueTwo status rating copied
  constructor
  · intro same name
    have outside : ∀ name, name ∉ derivedNames → one.copied? name = two.copied? name := by
      intro name other
      have here := (fact name).1 (same name)
      rwa [derived?_of_other other, derived?_of_other other] at here
    have here := (fact name).1 (same name)
    rw [← derived outside] at here
    cases found : one.derived? name with
    | none =>
        rw [found] at here
        exact Or.inr here
    | some v => exact Or.inl rfl
  · intro copied name
    have outside : ∀ name, name ∉ derivedNames → one.copied? name = two.copied? name := by
      intro name other
      refine (copied name).resolve_left ?_
      simp [derived?_of_other other]
    rw [fact, ← derived outside]
    rcases copied name with derives | same
    · obtain ⟨v, found⟩ := Option.isSome_iff_exists.1 derives
      rw [found]
      rfl
    · rw [same]

end Congruence

/-- Two tickets with the same company whose fields may differ only under the names of derived facts. -/
structure AlikeButDerived (one two : Ticket) : Prop where
  company : one.company = two.company
  uniqueOne : one.fields.names.Nodup
  uniqueTwo : two.fields.names.Nodup
  fields : ∀ name, name ∉ derivedNames → one.fields.get? name = two.fields.get? name

namespace AlikeButDerived

variable (alike : AlikeButDerived one two)
include alike

theorem copied? {name : String} (other : name ∉ derivedNames) : one.copied? name = two.copied? name := by
  unfold Ticket.copied?
  rw [alike.fields name other]

/-- Such tickets derive the same facts. -/
theorem derived? (name : String) : one.derived? name = two.derived? name :=
  derived?_congr alike.uniqueOne alike.uniqueTwo (by rw [alike.company]) (by rw [alike.company])
    (fun _ => alike.copied?) name

end AlikeButDerived

/-- Under the name of a derived fact a field is copied with its spelling. -/
theorem copied?_of_derived {name : String} (within : name ∈ derivedNames) :
    ticket.copied? name = (ticket.fields.get? name).bind fieldFact? := by
  unfold copied?
  rcases mem_derivedNames_iff.1 within with rfl | rfl | rfl | rfl <;> simp

/-- A fact that two such tickets derive is the same, and one that they do not derive is what their fields are. -/
theorem AlikeButDerived.facts_eq_iff (alike : AlikeButDerived one two) {name : String} (within : name ∈ derivedNames) :
    one.facts.get? name = two.facts.get? name ↔ (one.derived? name).isSome = true ∨
      (one.fields.get? name).bind fieldFact? = (two.fields.get? name).bind fieldFact? := by
  rw [get?_facts alike.uniqueOne, get?_facts alike.uniqueTwo, ← alike.derived?, copied?_of_derived within,
    copied?_of_derived within]
  cases one.derived? name <;> simp

/-- Of two tickets with the same company, whose fields agree under all names but those of derived facts, the facts agree
exactly where each of these names has a derived fact, or fields of the two that are the same fact. Apart from the
combined trigger, the status and the rating of the company their facts always agree. The status and the rating of a
company are facts where they are given and not empty, and else what a field of that name is. -/
theorem facts_agree_iff (alike : AlikeButDerived one two) :
    ((∀ name, one.facts.get? name = two.facts.get? name) ↔
      ∀ name ∈ derivedNames, (one.derived? name).isSome = true ∨
        (one.fields.get? name).bind fieldFact? = (two.fields.get? name).bind fieldFact?) ∧
    (∀ name, name ∉ ["payment_trigger_combined", "company_kyb_status", "company_risk_rating"] →
      one.facts.get? name = two.facts.get? name) ∧
    one.facts.get? "company_kyb_status" = (given? (one.company.bind (·.kybStatus))).or
      ((one.fields.get? "company_kyb_status").bind fieldFact?) ∧
    one.facts.get? "company_risk_rating" = (given? (one.company.bind (·.riskRating))).or
      ((one.fields.get? "company_risk_rating").bind fieldFact?) := by
  have outside {name : String} (other : name ∉ derivedNames) : one.facts.get? name = two.facts.get? name := by
    rw [get?_facts alike.uniqueOne, get?_facts alike.uniqueTwo, alike.derived?, alike.copied? other]
  refine ⟨⟨fun agree name within => (alike.facts_eq_iff within).1 (agree name), fun agree name => ?_⟩,
    fun name other => ?_, get?_facts alike.uniqueOne _, get?_facts alike.uniqueOne _⟩
  · by_cases within : name ∈ derivedNames
    · exact (alike.facts_eq_iff within).2 (agree name within)
    · exact outside within
  · by_cases deal : name = "formula_b2b_lme"
    · subst deal
      exact (alike.facts_eq_iff (by decide)).2 (Or.inl rfl)
    · simp only [List.mem_cons, List.not_mem_nil, or_false, not_or] at other
      obtain ⟨trigger, status, rating⟩ := other
      exact outside (not_mem_derivedNames_iff.2 ⟨trigger, status, rating, deal⟩)

end Ticket

namespace Trial

/-- A ticket with no company. -/
def companyless (fields : Fields) : Ticket where
  id := "T"
  status := .draft
  fields
  company := none
  createdAt := ⟨0, none⟩
  updatedAt := ⟨0, none⟩

/-- A field with the name of a fact that the company is to give. -/
def claimedStatus : Fields := [("company_kyb_status", .text "Approved")]

/-- The condition of the rule for counterparties that were not checked. -/
def unchecked : Condition := .compare "company_kyb_status" .notEquals (.text "Approved")

end Trial

namespace Ticket

/-- A ticket with no company supplies the status of one by a field, and a condition on that status holds no more. -/
theorem facts_agree_iff_of_claimedStatus :
    AlikeButDerived (Trial.companyless []) (Trial.companyless Trial.claimedStatus) ∧
      (¬ ∀ name, (Trial.companyless []).facts.get? name = (Trial.companyless Trial.claimedStatus).facts.get? name) ∧
      Trial.unchecked.holds (Trial.companyless []).facts = true ∧
      Trial.unchecked.holds (Trial.companyless Trial.claimedStatus).facts = false := by
  have alike : AlikeButDerived (Trial.companyless []) (Trial.companyless Trial.claimedStatus) := by
    refine ⟨rfl, List.nodup_nil, by decide, fun name other => ?_⟩
    exact (if_neg (Ne.symm (not_mem_derivedNames_iff.1 other).2.1)).symm
  refine ⟨alike, fun agree => ?_, by decide +kernel, by decide +kernel⟩
  rcases (facts_agree_iff alike).1.1 agree "company_kyb_status" (by decide) with derives | same
  · cases derives
  · cases same

end Ticket

end Countersign
