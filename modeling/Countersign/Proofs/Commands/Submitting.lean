/-
Module: Countersign.Proofs.Commands.Submitting
Purpose: What a submission keeps, step after step.
Main exports: RequestStore.fixedFields, Service.KeptBySubmitting, Service.KeptBySubmitting.of_writing,
  Phase.step_keeps, Approval.submit_keeps
-/
import Countersign.Approval.Submission
import Countersign.Proofs.Commands.Routing
import Countersign.Proofs.Submission.Endings

namespace Countersign

open Service

/-!
A submission writes three of the four tables, and lets time pass while it waits for a lease. Of a request it changes
the lease and the status, with what belongs to them, and leaves the other fields as they were when it was opened. What
it keeps that way is kept by every step of it.
-/

namespace RequestStore

/-- The fields of a request that stay as they were when it was opened. -/
def fixedFields : List String :=
  ["approval_request_id", "ticket_id", "required_approvers", "rule_triggered", "role_to_rules", "created_at"]

/-- A change of a request that leaves those fields alone. -/
def SparesFixed (change : Change) : Prop := ∀ name ∈ fixedFields, change.Spares name

theorem setAll_sparesFixed {updates : Fields} (apart : ∀ name ∈ updates.names, name ∉ fixedFields) :
    SparesFixed (Change.setAll updates) :=
  fun name fixed => .setAll fun written => apart name written fixed

theorem lease_sparesFixed (token : Value) (ends : Double) : SparesFixed (lease token ends) :=
  setAll_sparesFixed (by simp [Fields.names, fixedFields])

theorem leaseFree_sparesFixed : SparesFixed (Change.setAll leaseFree) :=
  setAll_sparesFixed (by simp [Fields.names, leaseFree, fixedFields])

theorem moveTo_sparesFixed (ticketId : String) (id : Value) (status : ApprovalStatus) (time : Moment)
    (releasing : Bool) : SparesFixed (moveTo ticketId id status time releasing) := by
  refine fun name fixed => .andThen (setAll_sparesFixed ?_ name fixed) (.increment ?_)
  · cases status <;> cases releasing <;>
      simp [Fields.names, leaseFree, ApprovalStatus.isTerminal, fixedFields]
  · rintro rfl
    exact absurd fixed (by decide)

end RequestStore

namespace Service

/-- What holds after a submission asked, wrote to its tables and waited, where it held before, and what is kept by
those who register and submit tickets, too. -/
structure KeptBySubmitting (kept : ServiceState → Prop) : Prop where
  routing : KeptByRouting kept
  requests : ∀ {query : Query} {alteration : Change}, RequestStore.SparesFixed alteration →
    Keeps kept (change .requests query alteration)
  actions : KeptByWriting kept .actions
  wait : ∀ {micros : Int}, Keeps kept (waitWithin micros)

namespace KeptBySubmitting

variable {kept : ServiceState → Prop}

theorem asks (submitting : KeptBySubmitting kept) {α : Type} {part : Service α} (asks : Asks part) : Keeps kept part :=
  submitting.actions.asks asks

theorem update (submitting : KeptBySubmitting kept) {query : Query} {alteration : Change}
    (spares : RequestStore.SparesFixed alteration) : Keeps kept (update .requests query alteration) :=
  .bind (submitting.requests spares) fun _ => .pure

/-- What is kept however the three tables are written is kept by submissions. -/
theorem of_writing (requests : KeptByWriting kept .requests) (actions : KeptByWriting kept .actions)
    (tickets : KeptByWriting kept .tickets) (wait : ∀ {micros : Int}, Keeps kept (waitWithin micros)) :
    KeptBySubmitting kept where
  routing := ⟨tickets.asks, tickets.write, fun _ _ => requests.insert _⟩
  requests _ := requests.change
  actions := actions
  wait := wait

end KeptBySubmitting

end Service

variable {kept : ServiceState → Prop}

namespace RequestStore

theorem claim?_keeps (submitting : KeptBySubmitting kept) (id token : Value) (length : Double) :
    Keeps kept (claim? id token length) := by
  refine .bind (.of_unmoved fun _ => rfl) fun time =>
    .bind (submitting.update (lease_sparesFixed _ _)) fun found => ?_
  cases found with
  | some document => exact submitting.asks (.bind .accept fun _ => .pure)
  | none => exact .pure

theorem ensureKnown_asks (id : Value) : Asks (ensureKnown id) := by
  refine .bind .findOne fun found => ?_
  cases found with
  | some document => exact .pure
  | none => exact .refuse

theorem release_keeps (submitting : KeptBySubmitting kept) (id token : Value) : Keeps kept (release id token) := by
  refine .bind (submitting.requests leaseFree_sparesFixed) fun found => ?_
  cases found with
  | some documents => exact .pure
  | none => exact .pure

theorem write?_keeps (submitting : KeptBySubmitting kept) (id token : Value) (ticketId : String)
    (status : ApprovalStatus) (time : Moment) (releasing : Bool) :
    Keeps kept (write? id token ticketId status time releasing) := by
  refine .bind (submitting.update (moveTo_sparesFixed _ _ _ _ _)) fun found => ?_
  cases found with
  | none => exact .pure
  | some document => exact submitting.asks (.bind .note fun _ => .bind .accept fun _ => .pure)

end RequestStore

theorem Trail.record_keeps (submitting : KeptBySubmitting kept) (requestId role : Value) (decision : Decision)
    (sequence comment : Value) : Keeps kept (Trail.record requestId role decision sequence comment) := by
  refine .bind (submitting.asks .now) fun time => .bind (submitting.asks .newId) fun id =>
    .bind (submitting.asks .accept) fun action => ?_
  exact .bind submitting.actions.insert fun added => submitting.asks (.ite (.bind .note fun _ => .pure) .refuse)

namespace Phase

theorem advance_keeps (submitting : KeptBySubmitting kept) (call : Submission) (phase : Phase) :
    Keeps kept (phase.advance call) := by
  cases phase with
  | claiming tries =>
      refine .ite (submitting.asks (.bind .note fun _ => .refuse))
        (.bind (RequestStore.claim?_keeps submitting _ _ _) fun found => ?_)
      cases found with
      | some request => exact .pure
      | none => exact .pure
  | probing tries => exact .bind (submitting.asks (RequestStore.ensureKnown_asks _)) fun _ => .pure
  | waiting tries =>
      have pauses : Keeps kept call.pause := by
        unfold Submission.pause
        split
        · exact submitting.wait
        · exact .throw
      exact .ite (.bind pauses fun _ => .pure) .pure
  | leased request => exact .bind (submitting.asks (Trail.listFor_asks _)) fun _ => .pure
  | informed request history =>
      refine .ite .pure (submitting.asks (.bind .note fun _ => .bind .now fun _ => ?_))
      exact .bind (RequestStore.get_asks _) fun _ => .pure
  | restoring request history ticketId time =>
      refine .bind (RequestStore.write?_keeps submitting _ _ _ _ _ _) fun found => ?_
      cases found with
      | some committed => exact .pure
      | none => exact .throw
  | spreading request history => exact .bind (Approval.tellTicket_keeps submitting.routing _) fun _ => .pure
  | judging request history =>
      rw [advance]
      cases call.objection? request history with
      | some refusal => exact .throw
      | none => exact .bind (Trail.record_keeps submitting _ _ _ _ _) fun _ => .pure
  | recorded request history action =>
      exact submitting.asks (.bind .now fun _ => .bind (RequestStore.get_asks _) fun _ => .pure)
  | committing request history action ticketId time =>
      refine .bind (RequestStore.write?_keeps submitting _ _ _ _ _ _) fun found => ?_
      cases found with
      | some committed => exact .pure
      | none => exact .throw
  | releasing outcome =>
      refine .bind (RequestStore.release_keeps submitting _ _) fun _ => ?_
      cases outcome with
      | ok result => exact .pure
      | error failure => exact .throw
  | announcing result =>
      exact .bind (submitting.asks .note) fun _ =>
        .ite (.bind (Approval.tellTicket_keeps submitting.routing _) fun _ => .pure) .pure
  | done outcome => exact .pure

theorem step_keeps (submitting : KeptBySubmitting kept) (call : Submission) (phase : Phase) :
    Keeps kept (phase.step call) := by
  refine .bind (.attempt (advance_keeps submitting call phase)) fun outcome => ?_
  cases outcome with
  | ok next => exact .pure
  | error failure => exact .pure

end Phase

/-! ### Whole submissions -/

namespace Submission

variable {β : Type} {hooks : Hooks β}

theorem visit_keeps (each : ∀ hook ∈ hooks, Keeps kept hook.2) (phase : Phase) : Keeps kept (visit hooks phase) := by
  unfold visit
  split
  · exact .pure
  · split
    · exact .pure
    · next point _ _ hook found =>
        obtain ⟨front, back, rfl, -⟩ := List.lookup_eq_some_iff.1 found
        exact .bind (each (point, hook) (by simp)) fun _ => .pure

/-- What is left to run after a visit was there before it. -/
theorem visit_leaves (hooks : Hooks β) (phase : Phase) :
    Answers (visit hooks phase) fun visited => visited.2.1 ⊆ hooks := by
  unfold visit
  split
  · exact .pure fun _ => id
  · split
    · exact .pure fun _ => id
    · exact .bind fun _ => .pure List.filter_sublist.subset

theorem follow_keeps (submitting : KeptBySubmitting kept) (call : Submission)
    (each : ∀ hook ∈ hooks, Keeps kept hook.2) (fuel : Nat) (phase : Phase) :
    Keeps kept (follow call fuel hooks phase) := by
  induction fuel generalizing hooks phase with
  | zero => cases phase <;> exact .pure
  | succ fuel ih =>
      cases phase
      case done outcome => exact .pure
      all_goals
        refine .bind (Phase.step_keeps submitting call _) fun next => .bind_answer (visit_keeps each next) ?_
        rintro s ⟨told, left, later⟩ s' visited
        have fewer := visit_leaves hooks next s s' _ visited
        exact .bind (ih (fun hook member => each hook (fewer member)) later) fun _ => .pure

end Submission

namespace Approval

theorem submit_keeps (submitting : KeptBySubmitting kept) (requestId role : Value) (decision : Decision)
    (comment : Value) (terms : LeaseTerms) : Keeps kept (submit requestId role decision comment terms) :=
  .bind (.bind (submitting.asks .newId) fun _ => Submission.follow_keeps submitting _ (by simp) _ _) fun answered =>
    submitting.asks (settle_asks answered.1)

end Approval

end Countersign
