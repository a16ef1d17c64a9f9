/-
Module: Countersign.Proofs.Http.Forms
Purpose: What the forms of requests make sure of.
Main exports: Http.typed_of_newRule, Http.typed_of_ruleUpdates, Http.of_newTicket, Http.exists_ask_of_newRequest
-/
import Countersign.Http.Form
import Countersign.Proofs.Catalog.Refusing
import Countersign.Proofs.Ledger.Proposals

namespace Countersign.Http

/-!
What passed its form has fields of the kinds that the commands expect, so of all the kinds of values that a command may
stumble over only few are left.
-/

/-- All that a reader accepts is of a kind. -/
def Gives (reader : Reader Value) (kind : Value → Prop) : Prop := ∀ v w, reader v = .accepted w → kind w

namespace Gives

variable {reader : Reader Value} {kind : Value → Prop} {fields : Fields} {name : String} {w default : Value}

theorem asValue {α : Type} (reader : Reader α) (write : α → Value) :
    Gives (asValue reader write) fun w => ∃ a, w = write a := by
  intro v w read
  obtain ⟨a, -, same⟩ := Checked.map_eq_accepted_iff.1 read
  exact ⟨a, same.symm⟩

theorem orNull (gives : Gives reader kind) : Gives (orNull reader) fun w => w = .null ∨ kind w := by
  intro v w read
  unfold Http.orNull at read
  split at read
  · exact Or.inl (Checked.accepted.inj read).symm
  · exact Or.inr (gives _ _ read)

theorem required (gives : Gives reader kind) (read : fields.required name reader = .accepted w) : kind w := by
  obtain ⟨v, -, read⟩ := Fields.required_eq_accepted_iff.1 read
  exact gives v w read

theorem optional (gives : Gives reader kind) (missing : kind default)
    (read : fields.optional name default reader = .accepted w) : kind w := by
  cases found : fields.get? name with
  | none =>
      unfold Fields.optional at read
      rw [found] at read
      exact Checked.accepted.inj read ▸ missing
  | some v => exact gives v w ((Fields.optional_of_get? found).1 read)

end Gives

theorem name_gives : Gives name fun w => ∃ s, w = .text s := .asValue _ _

theorem approvers_gives : Gives approvers fun w => ∃ roles, w = .ofTexts roles := .asValue _ _

theorem conditions_gives : Gives conditions fun w => ∃ values, w = .list values := by
  intro v w read
  obtain ⟨found, rfl⟩ := Gives.asValue _ _ v w read
  exact ⟨_, rfl⟩

/-- A form is a check of a record. -/
theorem of_form {α : Type} {check : Fields → Checked α} {body : Option Value} {a : α}
    (accepted : form check body = .accepted a) :
    ∃ fields, body = some (.record fields) ∧ check fields = .accepted a := by
  unfold form at accepted
  split at accepted
  · cases accepted
  · exact ⟨_, rfl, Checked.under_eq_accepted_iff.1 accepted⟩
  · cases accepted

/-! ### Rules -/

theorem typed_of_newRule {body : Option Value} {sent : RuleCatalog.NewRule}
    (accepted : form newRule body = .accepted sent) (id : String) (time : Moment) :
    RuleDraft.IsTyped (sent.draft id time) := by
  obtain ⟨fields, -, accepted⟩ := of_form accepted
  simp only [newRule, Checked.seq_eq_accepted_iff, Checked.map_eq_accepted_iff] at accepted
  obtain ⟨_, _, ⟨_, _, ⟨_, _, ⟨_, _, ⟨_, _, ⟨_, _, ⟨_, named, rfl⟩, -, rfl⟩, -, rfl⟩, -, rfl⟩, -, rfl⟩, listed, rfl⟩,
    demanded, rfl⟩ := accepted
  obtain ⟨s, rfl⟩ := name_gives.required named
  obtain ⟨values, rfl⟩ := conditions_gives.optional ⟨[], rfl⟩ listed
  obtain ⟨roles, rfl⟩ := approvers_gives.optional ⟨[], rfl⟩ demanded
  intro name v found given
  have member := Fields.mem_of_get? found
  simp only [RuleCatalog.NewRule.draft, List.mem_cons, List.not_mem_nil, or_false, Prod.mk.injEq] at member
  refine ⟨?_, ?_, ?_⟩ <;> rintro rfl <;> simp at member <;> exact ⟨_, member⟩

/-- The fields that are given were read, each by its reader. -/
theorem of_givenFields {fields found : Fields} {readers : List (String × Reader Value)}
    (accepted : givenFields fields readers = .accepted found) :
    ∀ field ∈ found, ∃ reader v, (field.1, reader) ∈ readers ∧ reader v = .accepted field.2 := by
  induction readers generalizing found with
  | nil =>
      obtain rfl := Checked.accepted.inj accepted
      exact fun field member => nomatch member
  | cons first rest ih =>
      obtain ⟨name, reader⟩ := first
      have later {found : Fields} (accepted : givenFields fields rest = .accepted found) :
          ∀ field ∈ found, ∃ other v, (field.1, other) ∈ (name, reader) :: rest ∧ other v = .accepted field.2 := by
        intro field member
        obtain ⟨other, v, within, read⟩ := ih accepted field member
        exact ⟨other, v, List.mem_cons_of_mem _ within, read⟩
      rw [givenFields] at accepted
      split at accepted
      · exact later accepted
      · next v sent =>
          simp only [Checked.seq_eq_accepted_iff, Checked.map_eq_accepted_iff,
            Checked.under_eq_accepted_iff] at accepted
          obtain ⟨_, others, ⟨w, read, rfl⟩, behind, rfl⟩ := accepted
          exact List.forall_mem_cons.2 ⟨⟨reader, v, by simp, read⟩, later behind⟩

theorem typed_of_ruleUpdates {body : Option Value} {updates : Fields}
    (accepted : form ruleUpdates body = .accepted updates) : ∀ field ∈ updates, RuleDraft.Typed field.1 field.2 := by
  obtain ⟨fields, -, accepted⟩ := of_form accepted
  intro field member given
  obtain ⟨reader, v, known, read⟩ := of_givenFields accepted field member
  have some : field.2 ≠ .null := by
    intro none
    rw [none] at given
    cases given
  obtain ⟨name, w⟩ := field
  simp only [List.mem_cons, List.not_mem_nil, or_false, Prod.mk.injEq] at known
  refine ⟨?_, ?_, ?_⟩ <;> rintro rfl <;> simp at known <;> subst known
  · exact (name_gives.orNull _ _ read).resolve_left some
  · exact (approvers_gives.orNull _ _ read).resolve_left some
  · exact (conditions_gives.orNull _ _ read).resolve_left some

/-! ### Tickets and requests -/

theorem of_newTicket {body : Option Value} {sent : Routing.NewTicket}
    (accepted : form newTicket body = .accepted sent) :
    (∃ id, sent.id = .ofText? id) ∧ ∃ fields, sent.fields = .record fields := by
  obtain ⟨fields, -, accepted⟩ := of_form accepted
  simp only [newTicket, Checked.seq_eq_accepted_iff, Checked.map_eq_accepted_iff] at accepted
  obtain ⟨_, _, ⟨_, _, ⟨_, named, rfl⟩, described, rfl⟩, -, rfl⟩ := accepted
  exact ⟨(Gives.asValue _ _).optional ⟨none, rfl⟩ named, (Gives.asValue _ _).optional ⟨[], rfl⟩ described⟩

/-- What is written of the rules of roles is a record of lists of names. -/
theorem exists_namesRecord (given : List (String × List String)) :
    ∃ found, Requirements.namesValue given = Approval.namesRecord found := by
  obtain ⟨-, found, -, same⟩ := Reader.entries_of_allTexts (Reader.allTexts_written given)
  exact ⟨found, congrArg Value.record same⟩

/-- Who asks for a request names a ticket, roles and rules by texts. -/
theorem exists_ask_of_newRequest {body : Option Value} {sent : Approval.Proposal}
    (accepted : form newRequest body = .accepted sent) : ∃ ask : Approval.Ask, sent = ask.proposal := by
  obtain ⟨fields, -, accepted⟩ := of_form accepted
  simp only [newRequest, Checked.seq_eq_accepted_iff, Checked.map_eq_accepted_iff] at accepted
  obtain ⟨_, _, ⟨_, _, ⟨_, _, ⟨_, about, rfl⟩, demanded, rfl⟩, triggered, rfl⟩, answering, rfl⟩ := accepted
  obtain ⟨ticketId, rfl⟩ := (Gives.asValue _ _).required about
  obtain ⟨roles, rfl⟩ := (Gives.asValue _ _).required demanded
  obtain ⟨rule, rfl⟩ := (Gives.asValue _ _).required triggered
  rcases ((Gives.asValue _ _).orNull).optional (Or.inl rfl) answering with rfl | ⟨given, rfl⟩
  · exact ⟨⟨ticketId, roles, rule, none⟩, rfl⟩
  · obtain ⟨found, same⟩ := exists_namesRecord given
    exact ⟨⟨ticketId, roles, rule, some found⟩, by rw [same]; rfl⟩

end Countersign.Http
