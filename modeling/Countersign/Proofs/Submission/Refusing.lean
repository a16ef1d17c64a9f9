/-
Module: Countersign.Proofs.Submission.Refusing
Purpose: How a submission ends that goes on alone, and what it leaves behind.
Main exports: Stage.Tidy, Stage.Settled, Stage.Ready.exists_ended, Approval.exec_submit_inOrder, Approval.submit_ends,
  Approval.submit_inOrder
-/
import Countersign.Proofs.Commands.InOrder
import Countersign.Proofs.Submission.Passages

namespace Countersign

open Service

/-!
Where no lease is taken, a submission that goes on alone takes the one on its request at its first try, if there is
such a request. It never has to wait, and at its end it has given up the lease. It then tells what was the matter,
unless the store did not keep its action.
-/

/-- A failure of which a submission with a trail tells its caller, or which comes from the store, since it does not keep
the action in its place. -/
def Submission.Blames (call : Submission) (trail : List Action) (failure : Failure) : Prop :=
  failure.Told ∨ Trail.isKept call.role call.comment (trail.length + 1 : Nat) = false

namespace Phase

/-- Whether a submission may have the lease. -/
def mayHold : Phase → Bool
  | claiming _ => false
  | probing _ => false
  | waiting _ => false
  | announcing _ => false
  | done _ => false
  | _ => true

/-- Nobody has a lease but a submission with a token, on the request of an id and while it may hold it. -/
def Tidy (ledger : Ledger) (id token : String) (phase : Phase) : Prop :=
  ∀ holding ∈ ledger.requests, holding.lease = none ∨
    (phase.mayHold = true ∧ holding.request.id = id ∧ holding.holder? = some token)

namespace Tidy

variable {ledger : Ledger} {id token : String} {phase next : Phase}

theorem unleased (tidy : phase.Tidy ledger id token) (without : phase.mayHold = false) : ledger.Unleased :=
  fun holding member => (tidy holding member).resolve_right fun held => by simp [without] at held

theorem goOn (tidy : phase.Tidy ledger id token) (holds : phase.mayHold = true → next.mayHold = true) :
    next.Tidy ledger id token :=
  fun holding member => (tidy holding member).imp_right fun held => ⟨holds held.1, held.2⟩

/-- The lease on the request may be taken, kept or given up. -/
theorem onRequest {f : Holding → Holding} (tidy : phase.Tidy ledger id token)
    (changed : ∀ holding ∈ ledger.requests, holding.request.id = id → (f holding).lease = none ∨
      (next.mayHold = true ∧ (f holding).request.id = id ∧ (f holding).holder? = some token)) :
    next.Tidy (ledger.onRequest id f) id token := by
  intro holding member
  obtain ⟨before, known, rfl⟩ := Ledger.mem_onRequest.1 member
  by_cases about : before.request.id = id
  · rw [if_pos about]
    exact changed before known about
  · rw [if_neg about]
    exact Or.inl ((tidy before known).resolve_right fun held => about held.2.1)

end Tidy

/-- So it stays with every step while the store is up. -/
theorem Moves.tidy {call : Submission} {ledger after : Ledger} {id : String} {phase next : Phase}
    (moves : Moves call id false ledger phase after next) (knows : phase.Knows ledger id call.token)
    (tidy : phase.Tidy ledger id call.token) : next.Tidy after id call.token := by
  cases moves with
  | failed failure fails =>
      refine tidy.goOn fun hold => ?_
      have can := fails.canFail
      cases phase with
      | releasing outcome => simp [canFail] at can
      | _ => first | rfl | simp [mayHold] at hold
  | leased holding member same time free => exact tidy.onRequest fun _ _ about => Or.inr ⟨rfl, about, rfl⟩
  | restored up holding member same held =>
      rw [knows.1.about]
      exact tidy.onRequest fun holding known about => (tidy holding known).imp_right fun held => ⟨rfl, about, held.2.2⟩
  | committed up holding member same held => exact tidy.onRequest fun _ _ _ => Or.inl rfl
  | released up holding member same held => exact tidy.onRequest fun _ _ _ => Or.inl rfl
  | lost up other =>
      intro holding member
      exact (tidy holding member).imp_right fun held => absurd held.2.2 (other holding member held.2.1)
  | _ => exact tidy.goOn fun hold => by first | rfl | simp [mayHold] at hold

/-- What holds in a phase of a submission that has never had to wait, and which tells or blames the store for its
action. -/
def Settled (call : Submission) (id : String) (trail : List Action) (ledger : Ledger) :
    Phase → Prop
  | .claiming _ => ledger.Unleased ∧ ledger.history id = trail
  | .probing _ => ∀ holding ∈ ledger.requests, holding.request.id ≠ id
  | .waiting _ => False
  | .leased _ => ledger.history id = trail
  | .informed _ history => history = trail
  | .restoring _ history _ _ => history = trail
  | .spreading _ history => history = trail
  | .judging _ history => history = trail
  | .releasing outcome => ∀ failure, outcome = .error failure → call.Blames trail failure
  | .done outcome => ∀ failure, outcome = .error failure → call.Blames trail failure
  | _ => True

end Phase

namespace Stage

variable {call : Submission} {id : String} {points : List Point} {stage next last : Stage} {trail : List Action}
  {ledger : Ledger} {s : ServiceState}

/-- What every step keeps holds behind some steps. -/
theorem Passes.preserves {P : Stage → Prop} (passes : Passes call id points stage last) (ready : stage.Ready call id)
    (kept : ∀ {stage next : Stage}, stage.Ready call id → Next call id stage next → P stage → P next)
    (before : P stage) : P last := by
  induction passes with
  | stay stage => exact before
  | on goes later ih => exact ih (ready.after goes) (kept ready goes before)

/-- A submission comes to its end. -/
theorem Ready.exists_ended (ready : stage.Ready call id) :
    ∃ points last outcome, Passes call id points stage last ∧ last.phase = .done outcome := by
  induction rank : stage.phase.rank call using Nat.strongRecOn generalizing stage with
  | ind bound ih =>
      subst rank
      rcases Nat.eq_zero_or_pos (stage.phase.rank call) with idle | running
      · obtain ⟨outcome, ended⟩ := Phase.eq_done_of_rank idle
        exact ⟨[], stage, outcome, .stay stage, ended⟩
      · obtain ⟨next, goes⟩ := ready.exists_next
        obtain ⟨points, last, outcome, passes, ended⟩ := ih _ (ready.below goes running).2 (ready.after goes) rfl
        exact ⟨_, last, outcome, .on goes passes, ended⟩

/-! ### Failures -/

/-- A phase that fails goes on to where its failure leads. -/
theorem Next.of_error {failure : Failure} {s : ServiceState} (goes : Next call id stage next)
    (failed : exec (stage.phase.advance call) stage.state = (.error failure, s)) :
    next.phase = stage.phase.onFailure failure :=
  Except.ok.inj (congrArg Prod.fst (goes.ran.symm.trans (Phase.exec_step_error failed)))

theorem Next.of_ok {phase : Phase} {s : ServiceState} (goes : Next call id stage next)
    (ran : exec (stage.phase.advance call) stage.state = (.ok phase, s)) : next.phase = phase :=
  Except.ok.inj (congrArg Prod.fst (goes.ran.symm.trans (Phase.exec_step_ok ran)))

theorem blames_of_told {failure : Failure} (told : failure.Told) :
    ∀ other, (Except.error failure : Except Failure ActionResult) = .error other → call.Blames trail other := by
  rintro other ⟨⟩
  exact Or.inl told

/-- Who has tried for the lease as often as it may gives up. -/
theorem exec_claiming_spent {tries : Nat} (spent : call.terms.attempts ≤ tries) (s : ServiceState) :
    ∃ s', exec ((Phase.claiming tries).advance call) s = (.error (.refused (.leaseBusy call.requestId)), s') := by
  rw [Phase.advance, if_pos spent]
  exact ⟨_, rfl⟩

/-- Where there is no request of the id, the submission learns so. -/
theorem exec_probing (up : s.down = false) (shown : ledger.ShownBy s.store) (on : call.On id)
    (unknown : ∀ holding ∈ ledger.requests, holding.request.id ≠ id) (tries : Nat) :
    exec ((Phase.probing tries).advance call) s = (.error (.refused (.requestMissing (.text id))), s) := by
  have missing : ¬ RequestStore.Known s id := by
    rintro ⟨document, within, met⟩
    rw [shown.unmet (fun here known => RequestStore.withId_apart here (unknown _ known)) document within] at met
    cases met
  have missed := RequestStore.exec_ensureKnown up id
  rw [if_neg missing] at missed
  rw [Phase.advance, on.requestId, exec_bind_error missed]

/-- Writing the status of a request that a submission carries ends. -/
theorem restoring_ends (up : s.down = false) (shown : ledger.ShownBy s.store) {request : Request} {time : Moment}
    (carries : ledger.Carries id call.token request) (within : time.leavesCalendar = false) (history : List Action) :
    Ends (fun phase => ∀ outcome, phase ≠ .releasing outcome) Failure.Told
      ((Phase.restoring request history request.ticketId time).advance call) s := by
  by_cases held : ∃ holding ∈ ledger.requests, holding.request.id = request.id ∧ holding.holder? = some call.token
  · obtain ⟨holding, member, same, held⟩ := held
    obtain rfl := carries.fenced holding member (same.trans carries.about) held
    rcases RequestStore.exec_write?_held up shown member held (Submission.derived holding.request history) within
        false with
      ⟨-, table, journal, written, -⟩ | ⟨-, failed⟩
    · exact .ok_bind written (.pure fun _ same => nomatch same)
    · exact .of_error (exec_bind_error failed _) (.storage rfl)
  · have other : ∀ holding ∈ ledger.requests, holding.request.id = request.id → holding.holder? ≠ some call.token :=
      fun holding member same holds => held ⟨holding, member, same, holds⟩
    exact .ok_bind (RequestStore.exec_write?_other up shown other _ _ _ _) .refuse

/-- A submission that fails tells why, or blames the store. Where the rules of the phases leave open which failure it
was, that is seen from what the phase ran. -/
theorem Ready.settled_of_fails (ready : stage.Ready call id) (goes : Next call id stage next) {failure : Failure}
    (fails : stage.phase.Fails call id false stage.ledger failure)
    (same : next.phase = stage.phase.onFailure failure)
    (settled : stage.phase.Settled call id trail stage.ledger) :
    (stage.phase.onFailure failure).Settled call id trail stage.ledger := by
  obtain ⟨ledger, s, phase⟩ := stage
  obtain ⟨after, s', later⟩ := next
  have up := ready.up
  have shown := ready.shown
  have knows := ready.knows
  dsimp only at fails same settled up shown knows ⊢
  subst same
  cases fails with
  | unreached isDown => cases isDown
  | @spent tries spent _ =>
      obtain ⟨s', gaveUp⟩ := exec_claiming_spent spent s
      obtain rfl := Except.error.inj (Phase.done.inj (goes.of_error gaveUp))
      exact blames_of_told (.refused _)
  | @unknown tries _ =>
      obtain rfl := Except.error.inj (Phase.done.inj (goes.of_error (exec_probing up shown ready.on settled tries)))
      exact blames_of_told (.refused _)
  | late => exact settled.elim
  | @lostRestoring request history ticketId time _ =>
      obtain ⟨carries, -, -, -, rfl, within⟩ := knows
      have ends := restoring_ends up shown carries within history
      cases ran : exec ((Phase.restoring request history request.ticketId time).advance call) s with
      | mk outcome s' =>
          cases outcome with
          | ok phase => exact absurd (goes.of_ok ran).symm (ends.answer ran _)
          | error failure =>
              obtain rfl := Except.error.inj (Phase.releasing.inj (goes.of_error ran))
              exact blames_of_told (ends.failure ran)
  | objected objection => exact blames_of_told (.refused _)
  | @missed request history _ number fine fresh misses =>
      rw [show history = trail from settled] at misses
      cases misses with
      | unreached isDown => cases isDown
      | malformed faults unkept => exact fun _ _ => Or.inr unkept
      | unstorable fault unkept => exact fun _ _ => Or.inr unkept
      | taken other member shared => exact blames_of_told (.refused _)
  | lost other => exact blames_of_told (.refused _)
  | keyTaken member same within different taken => exact blames_of_told (.storage rfl)

/-- Every step of a submission that goes on alone keeps this. -/
theorem Ready.settled (ready : stage.Ready call id) (goes : Next call id stage next)
    (settled : stage.phase.Settled call id trail stage.ledger) : next.phase.Settled call id trail next.ledger := by
  have fails {failure : Failure} (failed : stage.phase.Fails call id false stage.ledger failure)
      (same : next.phase = stage.phase.onFailure failure) := ready.settled_of_fails goes failed same settled
  have moves := goes.moves
  obtain ⟨ledger, s, phase⟩ := stage
  obtain ⟨after, s', later⟩ := next
  have up := ready.up
  have shown := ready.shown
  dsimp only at moves settled up shown fails ⊢
  rw [up] at moves
  cases moves with
  | failed failure failed => exact fails failed rfl
  | leased holding member same time free => exact settled.2
  | busy taken =>
      intro holding member same
      obtain ⟨time, busy⟩ := taken holding member same
      rw [Holding.isFree, settled.1 holding member] at busy
      cases busy
  | @probed tries => cases goes.of_error (exec_probing up shown ready.on settled tries)
  | waited => exact settled.elim
  | informed => exact settled
  | agreed inLine => exact settled
  | lagging pending drifted holding member same clock => exact settled
  | restored up holding member same held => exact settled
  | spread up => exact settled
  | @released outcome up holding member same held =>
      cases outcome with
      | ok result => trivial
      | error failure => exact settled
  | @lost outcome up other =>
      cases outcome with
      | ok result => trivial
      | error failure => exact settled
  | committed up holding member same held => exact fun _ same => nomatch same
  | announced changed up => exact fun _ same => nomatch same
  | quiet unchanged => exact fun _ same => nomatch same
  | ended => exact settled
  | _ => trivial

end Stage

namespace Approval

open ServiceState

variable {s : ServiceState}

/-- A store would not keep an action of a role in the next place of the trail of a request. -/
def UnkeptAction (store : Store) (id : String) (role comment : Value) : Prop :=
  Trail.isKept role comment ((Trail.documentsOf store id).length + 1 : Nat) = false

/-- A submission that goes on alone leaves the store in order, and tells what was the matter or blames the store for its
action. -/
theorem exec_submit_inOrder (inOrder : s.InOrder) (id : String) (role : Value) (decision : Decision) (comment : Value)
    (terms : LeaseTerms) :
    ∃ outcome s', exec (submit (.text id) role decision comment terms) s = (outcome, s') ∧ s'.InOrder ∧
      ∀ failure, outcome = .error failure → failure.Told ∨ UnkeptAction s.store id role comment := by
  obtain ⟨ledger, shown, linked, unleased⟩ := inOrder.ledger
  obtain ⟨rules, wellKept⟩ := inOrder.rules
  let call := made s id role decision comment terms
  let stage : Stage := ⟨ledger, s.afterNew "LOCK", .claiming 0⟩
  have ready : stage.Ready call id := by
    refine ⟨made_on s id role decision comment terms, shown, ?_, trivial, trivial, inOrder.up⟩
    rw [ServiceState.taken_afterNew, if_neg (by decide)]
    exact linked
  obtain ⟨points, last, outcome, passes, ended⟩ := ready.exists_ended
  have after := ready.passes passes
  -- Three things are kept by every step up to the end: nobody else has a lease, what a failure tells, and the catalog.
  have tidy : last.phase.Tidy last.ledger id call.token := passes.preserves ready
    (P := fun stage => stage.phase.Tidy stage.ledger id call.token)
    (fun ready goes tidy => Phase.Moves.tidy (ready.up ▸ goes.moves) ready.knows tidy)
    fun holding member => Or.inl (unleased holding member)
  have settled : last.phase.Settled call id (ledger.history id) last.ledger := passes.preserves ready
    (P := fun stage => stage.phase.Settled call id (ledger.history id) stage.ledger)
    (fun ready goes settled => ready.settled goes settled) ⟨unleased, rfl⟩
  have kept : ∃ rules, RuleCatalog.WellKept last.state.store.rules rules := passes.preserves ready
    (P := fun stage => ServiceState.RulesHave (fun table => ∃ rules, RuleCatalog.WellKept table rules) stage.state)
    (fun {stage next} _ goes kept => by
      have still := Phase.step_keeps ServiceState.RulesHave.keptBySubmitting call stage.phase stage.state kept
      rwa [goes.ran] at still) ⟨rules, wellKept⟩
  have ran := (exec_submitWith id role decision comment terms ([] : Hooks Unit) s).trans
    (passes.exec_alone ready (Nat.le_refl _) ended)
  refine ⟨outcome, last.state, (exec_bind_ok ran _).trans (exec_settle outcome), ?_, fun failure failed => ?_⟩
  · exact ⟨after.up, ⟨last.ledger, after.shown, after.linked, tidy.unleased (by rw [ended]; rfl)⟩, kept⟩
  · rw [ended] at settled
    refine (settled failure failed).imp_right fun unkept => ?_
    rwa [UnkeptAction, ← (Trail.related_trailOf shown id).length_eq, ← (ledger.history_perm id).length_eq]

theorem submit_inOrder (id : String) (role : Value) (decision : Decision) (comment : Value) (terms : LeaseTerms) :
    Keeps InOrder (submit (.text id) role decision comment terms) := by
  intro s inOrder
  obtain ⟨outcome, s', ran, kept, -⟩ := exec_submit_inOrder inOrder id role decision comment terms
  rwa [ran]

theorem submit_ends (inOrder : s.InOrder) (id : String) (role : Value) (decision : Decision) (comment : Value)
    (terms : LeaseTerms) :
    Ends (fun _ => True) (fun failure => failure.Told ∨ UnkeptAction s.store id role comment)
      (submit (.text id) role decision comment terms) s := by
  obtain ⟨outcome, s', ran, -, tells⟩ := exec_submit_inOrder inOrder id role decision comment terms
  cases outcome with
  | ok result => exact .ok ran
  | error failure => exact .of_error ran (tells failure rfl)

end Approval

end Countersign
