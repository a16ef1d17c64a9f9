/-
Module: Countersign.Proofs.Decision.Retries
Purpose: A submission that was cut off at a point may be made once more.
Main exports: Stage.Course, Stage.Ready.course, Stage.Course.cut, Stage.Inside.again, World.Rests,
  World.retry_after_cut
-/
import Countersign.Proofs.Decision.Alone
import Countersign.Proofs.Decision.Tally
import Countersign.Proofs.Decision.TicketAgreement

namespace Countersign

open Service

/-!
A submission that would succeed is cut off when it has the lease, when it has read the history, or when its action is
recorded. Up to then the request and its ticket stay as they are. Where the action was not recorded, the retry does
what the submission would have done. Where it was, and decides the request, the retry brings the request in line and is
refused; where it was and does not decide, an approval is refused, and only changes are requested once more. The one
thing that keeps the retry from this is another request that waits for a ticket which has the id of the first one.
-/

/-! ### What an action makes of the status -/

/-- What a trail says of an action, but for its comment, its time and its id. -/
def Action.entry (action : Action) : String × Decision × Int := (action.role, action.decision, action.sequence)

namespace Submission

variable {call : Submission} {request : Request} {trail : List Action} {action : Action}

/-- Behind a pending history an action counts as its role and the decision of the submission. -/
theorem derived_recorded (accepts : call.Accepts request trail action) :
    derived request (trail ++ [action.kept]) =
      .ofHistory request.approvers (trail.map Action.step ++ [(action.role, call.decision)]) := by
  rw [derived, ApprovalStatus.ofActions, List.map_append, List.map_singleton, ← accepts.recorded.decision]
  rfl

theorem role_mem_of_accepts (accepts : call.Accepts request trail action) : action.role ∈ request.approvers := by
  have fine := accepts.fine
  rw [objection?_eq accepts.recorded.role] at fine
  by_contra other
  rw [if_pos other] at fine
  cases fine

/-- What a pending history amounts to with the action of a submission behind it. -/
theorem status_concat (accepts : call.Accepts request trail action) (inLine : derived request trail = .pending) :
    derived request (trail ++ [action.kept]) =
      match call.decision with
      | .approve => (Tally.ofHistory request.approvers (trail.map Action.step ++ [(action.role, .approve)])).status
      | .reject => .rejected
      | .requestChanges => .pending := by
  have waits : ApprovalStatus.ofHistory request.approvers (trail.map Action.step) = .pending := inLine
  have goesOn := congrArg Tally.status (Tally.ofHistory_concat (role_mem_of_accepts accepts) waits call.decision)
  rw [derived_recorded accepts]
  cases decision : call.decision with
  | approve => rfl
  | reject =>
      rw [decision] at goesOn
      exact goesOn
  | requestChanges =>
      rw [decision] at goesOn
      exact goesOn.trans waits

/-- Where an action was recorded and the request is still pending, nothing is held against the same action only if it
requests changes. -/
theorem requests_changes_of_again (accepts : call.Accepts request trail action)
    (inLine : derived request trail = .pending) (waits : derived request (trail ++ [action.kept]) = .pending)
    (fine : call.objection? request (trail ++ [action.kept]) = none) : call.decision = .requestChanges := by
  cases decision : call.decision with
  | requestChanges => rfl
  | reject =>
      rw [status_concat accepts inLine, decision] at waits
      cases waits
  | approve =>
      have unused := (of_objection?_none fine).2.2 decision
      have approved : call.hasApproved (trail ++ [action.kept]) = true := by
        rw [hasApproved, accepts.recorded.role]
        refine List.any_eq_true.2 ⟨action.kept, List.mem_append_right _ (List.mem_singleton_self _), ?_⟩
        simp [Action.kept, accepts.recorded.decision, decision]
      rw [approved] at unused
      cases unused

/-- Whether an action is accepted does not hang on the token of the submission. -/
theorem Accepts.withToken (accepts : call.Accepts request trail action) (token : String) :
    Submission.Accepts { call with token } request trail action :=
  ⟨accepts.fine, accepts.recorded, accepts.kept⟩

end Submission

namespace Stage

variable {call : Submission} {id : String} {stage next : Stage} {start : Ledger} {request : Request}
  {trail : List Action} {ticket : TicketStatus} {action : Action} {fuel : Nat} {result : ActionResult}
  {once : ServiceState}

/-! ### The course of a submission -/

/-- The course of a submission up to where its action is recorded: it seeks the lease, takes it, reads the history,
finds the request in line with it, and records. -/
structure Course (call : Submission) (request : Request) (trail : List Action) (ticket : TicketStatus)
    (action : Action) (stage : Stage) where
  points : List Point
  busy : ∀ point ∈ points, point = .afterBusy
  (last leased informed judging recorded : Stage)
  seeks : Passes call request.id points stage last
  takes : Next call request.id last leased
  informs : Next call request.id leased informed
  agrees : Next call request.id informed judging
  records : Next call request.id judging recorded
  atLeased : leased.phase = .leased request
  atInformed : informed.phase = .informed request trail
  atJudging : judging.phase = .judging request trail
  atRecorded : recorded.phase = .recorded request trail action
  insideLeased : leased.Inside call stage.ledger request trail ticket
  insideInformed : informed.Inside call stage.ledger request trail ticket
  insideRecorded : recorded.Inside call stage.ledger request (trail ++ [action.kept]) ticket
  accepts : call.Accepts request trail action
  inLine : Submission.derived request trail = .pending

namespace Course

/-- The steps of the course. -/
theorem passes (course : Course call request trail ticket action stage) :
    ∃ points, Passes call request.id points stage course.recorded :=
  ⟨_, course.seeks.trans (.on course.takes (.on course.informs (.on course.agrees (.on course.records (.stay _)))))⟩

/-- Where nothing comes in between, the action is committed at the end, unless another request waits for a ticket of
the id of the request. -/
theorem concludes (course : Course call request trail ticket action stage) {status : ApprovalStatus}
    (derived : status = Submission.derived request (trail ++ [action.kept])) :
    ∃ points last, Passes call request.id points stage last ∧
      ((stage.ledger.Contended request.id ∧ ∃ failure, last.phase = .done (.error failure)) ∨
        ∃ time result, last.phase = .done (.ok result) ∧
          last.ledger.Rests (request.moved status time) (trail ++ [action.kept]) (status.tells ticket)) := by
  obtain ⟨points, passes⟩ := course.passes
  obtain ⟨last, later, ends⟩ := course.insideRecorded.concludes course.atRecorded derived
  exact ⟨_, last, passes.trans later, ends⟩

/-- Where the connection breaks at a point under the lease, the request and its ticket stay as they are, and the
action is there only if it was recorded. -/
theorem cut (course : Course call request trail ticket action stage) {point : Point} (under : point ≠ .afterBusy) :
    ∃ last : Stage, CutAt call request.id point stage last ∧ last.phase = .done (.error .connectionLost) ∧
      last.ledger.ShownBy last.state.store ∧
      last.ledger.Rests request (if point = .afterRecord then trail ++ [action.kept] else trail) ticket := by
  have early {points : List Point} (before : ∀ other ∈ points, other ≠ point) :
      point ∉ course.points ++ points := by
    intro within
    rcases List.mem_append.1 within with seeking | behind
    · exact under (course.busy point seeking)
    · exact before point behind rfl
  -- What was passed up to the point is put together from the steps of the course. From the second point on the lease is
  -- given up on the way out, and the trail has the action only at the last.
  cases point with
  | afterBusy => exact absurd rfl under
  | afterAcquire =>
      have here : course.leased.phase.point? = some .afterAcquire := by rw [course.atLeased]; rfl
      have ended : course.leased.phase.cutOff = .done (.error .connectionLost) := by rw [course.atLeased]; rfl
      have notYet := @early [] (by simp)
      rw [List.append_nil] at notYet
      exact ⟨_, .cut course.seeks notYet course.takes here (.stay _), ended, course.insideLeased.ready.shown,
        course.insideLeased.rests⟩
  | afterList =>
      have here : course.informed.phase.point? = some .afterList := by rw [course.atInformed]; rfl
      have gives : course.informed.phase.cutOff = .releasing (.error .connectionLost) := by
        rw [course.atInformed]; rfl
      obtain ⟨last, goes, rests, ended⟩ :=
        course.insideInformed.ready.cutOff.releases gives course.insideInformed.rests
      have passes := course.seeks.trans (.point course.takes (by rw [course.atLeased]; rfl))
      exact ⟨last, .cut passes (early (by simp)) course.informs here (.silent goes (by rw [ended]; rfl)), ended,
        goes.shows, rests⟩
  | afterRecord =>
      have here : course.recorded.phase.point? = some .afterRecord := by rw [course.atRecorded]; rfl
      have gives : course.recorded.phase.cutOff = .releasing (.error .connectionLost) := by
        rw [course.atRecorded]; rfl
      obtain ⟨last, goes, rests, ended⟩ :=
        course.insideRecorded.ready.cutOff.releases gives course.insideRecorded.rests
      have passes := course.seeks.trans ((Passes.point course.takes (by rw [course.atLeased]; rfl)).trans
        ((Passes.point course.informs (by rw [course.atInformed]; rfl)).trans
          (.silent course.agrees (by rw [course.atJudging]; rfl))))
      exact ⟨last, .cut passes (early (by simp)) course.records here (.silent goes (by rw [ended]; rfl)), ended,
        goes.shows, rests⟩

end Course

/-- On a request in line with its history, a submission that has the lease fails or takes such a course. -/
theorem Inside.course (inside : next.Inside call stage.ledger request trail ticket)
    (here : next.phase = .leased request) {points : List Point} {last : Stage}
    (busy : ∀ point ∈ points, point = .afterBusy)
    (seeks : Passes call request.id points stage last) (takes : Next call request.id last next)
    (inLine : request.status.isTerminal = true ∨ request.status = Submission.derived request trail) :
    (∃ points last failure, Passes call request.id points next last ∧ last.phase = .done (.error failure) ∧
        (call.objection? request trail = none →
          Trail.isKept call.role call.comment (trail.length + 1 : Nat) = false)) ∨
      ∃ action, Nonempty (Course call request trail ticket action stage) := by
  obtain ⟨informed, informs, insideInformed, atInformed⟩ := inside.informs here
  obtain ⟨judging, agrees, insideJudging, atJudging⟩ := insideInformed.agrees atInformed inLine
  rcases insideJudging.answers atJudging with
    ⟨final, failure, passes, ended, -, unkept⟩ | ⟨action, recorded, records, accepts, insideRecorded, atRecorded⟩
  · exact Or.inl ⟨_, final, failure, .on informs (.quietly agrees (by rw [atJudging]; rfl) passes), ended, unkept⟩
  · have pending := (Submission.of_objection?_none accepts.fine).2.1
    have waits := inLine.resolve_left (by rw [pending]; simp [ApprovalStatus.isTerminal])
    exact Or.inr ⟨action, ⟨points, busy, last, next, informed, judging, recorded, seeks, takes, informs, agrees,
      records, here, atInformed, atJudging, atRecorded, inside, insideInformed, insideRecorded, accepts,
      waits.symm.trans pending⟩⟩

/-- A submission on a request that lags behind its history fails. -/
theorem Inside.fails_of_lagging (inside : stage.Inside call start request trail ticket)
    (here : stage.phase = .informed request trail) (pending : request.status = .pending)
    (drifted : Submission.derived request trail ≠ .pending) :
    ∃ last failure, Passes call request.id [] stage last ∧ last.phase = .done (.error failure) ∧
      (start.Contended request.id ∨ ∃ time,
        last.ledger.Rests (request.moved (Submission.derived request trail) time) trail
          (Submission.derived request trail).ticketStatus) := by
  obtain ⟨middle, time, lags, inside, restoring, within⟩ :=
    inside.lags here ⟨by rw [pending]; rfl, by rw [pending]; exact drifted.symm⟩
  have silent : middle.phase.point? = none := by rw [restoring]; rfl
  obtain ⟨next, restores, ⟨contended, inside, failure, gives⟩ | ⟨inside, spreading⟩⟩ :=
    inside.restores restoring within pending
  · obtain ⟨last, passes, ended, -⟩ := inside.fails gives
    exact ⟨last, failure, .quietly lags silent (.quietly restores (by rw [gives]; rfl) passes), ended, Or.inl contended⟩
  · obtain ⟨judging, spreads, inside, atJudging⟩ := inside.spreads spreading
    obtain ⟨refusal, objection⟩ : ∃ refusal, call.objection?
        (request.moved (Submission.derived request trail) time) trail = some refusal := by
      cases objection : call.objection? (request.moved (Submission.derived request trail) time) trail with
      | some refusal => exact ⟨refusal, rfl⟩
      | none => exact absurd (Submission.of_objection?_none objection).2.1 drifted
    obtain ⟨freeing, objects, inside, failure, gives⟩ := inside.objects atJudging objection
    obtain ⟨last, passes, ended, rests⟩ := inside.fails gives
    exact ⟨last, failure, .quietly lags silent (.quietly restores (by rw [spreading]; rfl)
      (.quietly spreads (by rw [atJudging]; rfl) (.quietly objects (by rw [gives]; rfl) passes))), ended,
      Or.inr ⟨time, rests⟩⟩

/-- A submission that succeeds when it goes on alone may try for the lease, and takes such a course. -/
theorem Ready.course (ready : stage.Ready call id) (begins : stage.phase = .claiming 0)
    (sequenced : stage.ledger.Sequenced) (enough : stage.phase.rank call ≤ fuel)
    (succeeds : exec (Submission.follow call fuel ([] : Hooks Unit) stage.phase) stage.state =
      (.ok (.ok result, []), once)) :
    0 < call.terms.attempts ∧ ∃ request trail ticket action, request.id = id ∧
      Nonempty (Course call request trail ticket action stage) := by
  -- Alone there is one way to go on, so no way that ends in a failure can be taken by a submission that succeeds.
  have never {points : List Point} {last : Stage} {failure : Failure} (passes : Passes call id points stage last)
      (ended : last.phase = .done (.error failure)) : False := by
    cases (passes.exec_alone ready enough ended).symm.trans succeeds
  refine ⟨?_, ?_⟩
  · by_contra spent
    have none : call.terms.attempts ≤ (0 : Nat) := Int.not_lt.1 spent
    obtain ⟨failure, s, refused⟩ :
        ∃ failure s, exec ((Phase.claiming 0).advance call) stage.state = (.error failure, s) := by
      rw [Phase.advance, if_pos none]
      exact ⟨_, _, rfl⟩
    obtain ⟨next, goes⟩ := ready.exists_next
    have ran := goes.ran
    rw [begins] at ran
    have ended := Except.ok.inj (Prod.mk.inj (ran.symm.trans (Phase.exec_step_error refused))).1
    exact never (.silent goes (by rw [ended]; rfl)) ended
  · obtain ⟨points, last, leased, seeks, busy, takes, ⟨failure, ended⟩ | ⟨holding, took⟩⟩ :=
      ready.claims (by rw [begins]; rfl)
    · exact (never (seeks.trans (.silent takes (by rw [ended]; rfl))) ended).elim
    obtain rfl := took.same
    obtain ⟨ticket, rests⟩ := ready.linked.exists_rests took.member
    have inside := took.inside ((ready.passes seeks).after takes) sequenced rests
    have onward {points : List Point} {final : Stage} {failure : Failure}
        (passes : Passes call holding.request.id points leased final)
        (ended : final.phase = .done (.error failure)) : False := never (seeks.trans (.on takes passes)) ended
    by_cases inLine : holding.request.status.isTerminal = true ∨
        holding.request.status = Submission.derived holding.request (stage.ledger.history holding.request.id)
    · rcases inside.course took.phase busy seeks takes inLine with
        ⟨points, final, failure, passes, ended, -⟩ | ⟨action, course⟩
      · exact (onward passes ended).elim
      · exact ⟨_, _, _, action, rfl, course⟩
    · obtain ⟨open_, drifted⟩ := not_or.1 inLine
      have pending := ApprovalStatus.eq_pending_of_not_terminal open_
      obtain ⟨informed, informs, insideInformed, atInformed⟩ := inside.informs took.phase
      obtain ⟨final, failure, passes, ended, -⟩ := insideInformed.fails_of_lagging atInformed pending
        fun same => drifted (pending.trans same.symm)
      exact (onward (.on informs passes) ended).elim

/-! ### The course of a retry -/

/-- A submission comes to its end, and then its request has a status, its ticket has one, and the trail has the entries
of some actions, and one more at most where changes are requested. -/
def Settles (call : Submission) (request : Request) (actions : List Action) (status : ApprovalStatus)
    (ticket : TicketStatus) (stage : Stage) : Prop :=
  ∃ points last outcome final more, Passes call request.id points stage last ∧ last.phase = .done outcome ∧
    last.ledger.Rests final more ticket ∧ final.id = request.id ∧ final.status = status ∧
    (more.map Action.entry = actions.map Action.entry ∨
      call.decision = .requestChanges ∧ ∃ entry, more.map Action.entry = actions.map Action.entry ++ [entry])

section Settles

variable {status : ApprovalStatus} (accepts : call.Accepts request trail action)
  (inLine : Submission.derived request trail = .pending)
  (derived : status = Submission.derived request (trail ++ [action.kept]))

include accepts inLine derived

/-- A submission whose action is accepted settles as if it was the action that another one recorded. -/
theorem Inside.afresh (inside : stage.Inside call start request trail ticket) (here : stage.phase = .leased request)
    (apart : ¬ start.Contended request.id) :
    stage.Settles call request (trail ++ [action.kept]) status (status.tells ticket) := by
  have pending := (Submission.of_objection?_none accepts.fine).2.1
  obtain ⟨informed, informs, insideInformed, atInformed⟩ := inside.informs here
  obtain ⟨judging, agrees, insideJudging, atJudging⟩ :=
    insideInformed.agrees atInformed (Or.inr (pending.trans inLine.symm))
  rcases insideJudging.answers atJudging with
    ⟨-, -, -, -, -, unkept⟩ | ⟨other, recorded, records, twice, insideRecorded, atRecorded⟩
  · cases (unkept accepts.fine).symm.trans accepts.kept
  have same : other.kept.entry = action.kept.entry := by
    have role := Value.text.inj (twice.recorded.role.symm.trans accepts.recorded.role)
    exact Prod.ext role (Prod.ext (twice.recorded.decision.trans accepts.recorded.decision.symm)
      (twice.recorded.sequence.trans accepts.recorded.sequence.symm))
  have alike : status = Submission.derived request (trail ++ [other.kept]) := by
    rw [derived, Submission.derived_recorded accepts, Submission.derived_recorded twice,
      show other.role = action.role from congrArg Prod.fst same]
  obtain ⟨last, passes, ⟨contended, -⟩ | ⟨time, result, ended, rests⟩⟩ := insideRecorded.concludes atRecorded alike
  · exact absurd contended apart
  · exact ⟨_, last, _, _, _, .on informs (.on agrees (.on records passes)), ended, rests, rfl, rfl,
      Or.inl (by simp [same])⟩

/-- A submission on a request on which the same action was recorded and waits for its commit brings it in line and
fails, or fails because the role has approved, or requests changes once more. -/
theorem Inside.again (inside : stage.Inside call start request (trail ++ [action.kept]) ticket)
    (here : stage.phase = .leased request) (apart : ¬ start.Contended request.id) :
    stage.Settles call request (trail ++ [action.kept]) status (status.tells ticket) := by
  have pending := (Submission.of_objection?_none accepts.fine).2.1
  obtain ⟨informed, informs, insideInformed, atInformed⟩ := inside.informs here
  by_cases terminal : status.isTerminal = true
  · obtain ⟨last, failure, passes, ended, contended | ⟨time, rests⟩⟩ :=
      insideInformed.fails_of_lagging atInformed pending fun same => by
        rw [derived, same] at terminal
        cases terminal
    · exact absurd contended apart
    · rw [← derived] at rests
      rw [ApprovalStatus.tells, if_pos terminal]
      exact ⟨_, last, _, _, _, .on informs passes, ended, rests, rfl, rfl, Or.inl rfl⟩
  · have waits := ApprovalStatus.eq_pending_of_not_terminal terminal
    obtain ⟨judging, agrees, insideJudging, atJudging⟩ :=
      insideInformed.agrees atInformed (Or.inr (pending.trans (waits.symm.trans derived)))
    rcases insideJudging.answers atJudging with
      ⟨last, failure, passes, ended, rests, -⟩ | ⟨again, recorded, records, twice, insideRecorded, atRecorded⟩
    · rw [ApprovalStatus.tells, if_neg terminal]
      exact ⟨_, last, _, _, _, .on informs (.on agrees passes), ended, rests, rfl, pending.trans waits.symm, Or.inl rfl⟩
    · have changes := Submission.requests_changes_of_again accepts inLine (derived.symm.trans waits) twice.fine
      have still : status = Submission.derived request (trail ++ [action.kept] ++ [again.kept]) := by
        rw [Submission.status_concat twice (derived.symm.trans waits), changes, waits]
      obtain ⟨last, passes, ⟨contended, -⟩ | ⟨time, result, ended, rests⟩⟩ := insideRecorded.concludes atRecorded still
      · exact absurd contended apart
      · exact ⟨_, last, _, _, _, .on informs (.on agrees (.on records passes)), ended, rests, rfl, rfl,
          Or.inr ⟨changes, again.kept.entry, by simp⟩⟩

end Settles

end Stage

namespace World

variable {environment : Session.Environment} {order : Order} {w again : World} {ledger : Ledger} {id : String}
  {request : Request} {trail : List Action} {ticket : TicketStatus} {role comment : Value} {decision : Decision}
  {terms : LeaseTerms} {result : ActionResult}

/-! ### Submissions as runs -/

section Runs

variable {call : Submission} {calls : List Call} {points : List Point} {point : Point} {stage last : Stage}

/-- The steps of the latest submission are events. -/
theorem runs_of_passes (passes : Stage.Passes call id points stage last) :
    Runs environment anyOrder ⟨stage.state, calls ++ [⟨call, stage.phase⟩]⟩
      ⟨last.state, calls ++ [⟨call, last.phase⟩]⟩ := by
  induction passes with
  | stay stage => exact .stay
  | @on points stage next last goes later ih =>
      refine (Runs.next .stay (.advance calls.length) rfl ?_).trans ih
      have ran := goes.ran
      simp [take, ran]

/-- So is the break of its connection. -/
theorem runs_of_cutAt (broken : Stage.CutAt call id point stage last) :
    Runs environment anyOrder ⟨stage.state, calls ++ [⟨call, stage.phase⟩]⟩
      ⟨last.state, calls ++ [⟨call, last.phase⟩]⟩ := by
  obtain @⟨points, more, next, cut, passes, early, goes, here, later⟩ := broken
  have comes : Runs environment anyOrder ⟨stage.state, calls ++ [⟨call, stage.phase⟩]⟩
      ⟨cut.state, calls ++ [⟨call, cut.phase⟩]⟩ :=
    (runs_of_passes passes).trans (runs_of_passes (Stage.Passes.on goes (.stay cut)))
  refine (Runs.next comes (.cut calls.length) rfl ?_).trans (runs_of_passes later)
  simp [take, here]

end Runs

/-! ### Retries -/

/-- Where a request rests in a world, with what was done on it and with its ticket. -/
structure Rests (w : World) (request : Request) (trail : List Action) (ticket : TicketStatus) : Prop where
  stored : w.Stores request
  trail : w.history request.id = trail
  ticket : w.TicketIs request.ticketId ticket

theorem rests_iff_of_shownBy (shown : ledger.ShownBy w.state.store) :
    w.Rests request trail ticket ↔ ledger.Rests request trail ticket := by
  constructor
  · rintro ⟨stored, history, told⟩
    exact ⟨(stores_iff_of_shownBy shown).1 stored, (history_eq_of_shownBy shown _).symm.trans history,
      (ticketIs_iff_of_shownBy shown).1 told⟩
  · rintro ⟨stored, history, told⟩
    exact ⟨(stores_iff_of_shownBy shown).2 stored, (history_eq_of_shownBy shown _).trans history,
      (ticketIs_iff_of_shownBy shown).2 told⟩

/-- Whether the lease on the request of an id may be taken now. -/
def leaseFree (w : World) (id : String) : Bool :=
  w.state.store.requests.all fun document =>
    !document.meets "approval_request_id" (.text id) ||
      RequestStore.isFree (RequestStore.secondsAt w.state) document

theorem Holds.isFree (holds : w.Holds ledger) (free : w.leaseFree id = true) {holding : Holding}
    (member : holding ∈ ledger.requests) (same : holding.request.id = id) :
    holding.isFree (RequestStore.secondsAt w.state) = true := by
  obtain ⟨located⟩ := holds.shown.located member
  have here := List.all_eq_true.1 free located.document (by rw [located.documents]; simp)
  rw [RequestStore.withId_shown located.shown, same] at here
  simpa [RequestStore.isFree_shown located.shown] using here

/-- A submission may begin where the store is up. -/
theorem Holds.ready (holds : w.Holds ledger) (up : w.state.down = false) :
    Stage.Ready (Approval.made w.state id role decision comment terms) id
      ⟨ledger, w.state.afterNew "LOCK", .claiming 0⟩ where
  on := Approval.made_on _ _ _ _ _ _
  shown := holds.shown
  linked := by
    rw [ServiceState.taken_afterNew, if_neg (by decide)]
    exact holds.linked
  knows := trivial
  may := trivial
  up := up

/-- A submission that goes on alone in a world comes to its end, and then its request has a status, the ticket has one,
and the trail has the entries of some actions, and one more at most where changes are requested. -/
def ComesTo (w : World) (id : String) (role : Value) (decision : Decision) (comment : Value) (terms : LeaseTerms)
    (actions : List Action) (status : ApprovalStatus) (ticket : TicketStatus) : Prop :=
  ∃ told after request more,
    exec (Approval.submitWith (.text id) role decision comment terms ([] : Hooks Unit)) w.state =
      (.ok (told, []), after) ∧
    request.id = id ∧ World.Rests ⟨after, w.calls⟩ request more ticket ∧ request.status = status ∧
    (more.map Action.entry = actions.map Action.entry ∨
      decision = .requestChanges ∧ ∃ entry, more.map Action.entry = actions.map Action.entry ++ [entry])

/-- A submission on a request whose lease may be taken takes it at once, and leaves the world with what it settles. -/
theorem Holds.settled (holds : w.Holds ledger) (sequenced : ledger.Sequenced) (up : w.state.down = false)
    (rests : ledger.Rests request trail ticket) (free : w.leaseFree request.id = true) (left : 0 < terms.attempts)
    {actions : List Action} {status : ApprovalStatus} {standing : TicketStatus}
    (settles : ∀ {leased : Stage},
      leased.Inside (Approval.made w.state request.id role decision comment terms) ledger request trail ticket →
      leased.phase = .leased request →
      leased.Settles (Approval.made w.state request.id role decision comment terms) request actions status standing) :
    w.ComesTo request.id role decision comment terms actions status standing := by
  obtain ⟨holding, member, same⟩ := rests.stored
  subst same
  have ready : Stage.Ready (Approval.made w.state holding.request.id role decision comment terms) _ _ := holds.ready up
  obtain ⟨leased, takes, took⟩ := ready.takes left member rfl (holds.isFree free member rfl)
  obtain ⟨points, last, told, final, more, passes, ended, rests, named, stands, entries⟩ :=
    settles (took.inside (ready.after takes) sequenced rests) took.phase
  have passes := Stage.Passes.on takes passes
  have ran := passes.exec_alone (β := Unit) ready (Nat.le_refl _) ended
  rw [← Approval.exec_submitWith] at ran
  have shown := (ready.passes passes).shown
  exact ⟨told, _, final, more, ran, named, (rests_iff_of_shownBy (w := ⟨last.state, w.calls⟩) shown).2 rests, stands,
    entries⟩

/-- A submission that would succeed if it went on alone may be cut off at any point under the lease. It leaves a world
in which the request rests, and the same submission may be made once more in every later world in which the request
and its ticket still rest so and the lease may be taken. Whatever the retry answers, it leaves the request and the
ticket with the statuses that the first submission alone would have given them, and the trail with the same entries;
only where changes are requested there may be one entry more. This holds unless another request waits for a ticket
that has the id of the first one. -/
theorem retry_after_cut (reached : Runs environment order start w) (up : w.state.down = false) {once : ServiceState}
    (succeeds : exec (Approval.submitWith (.text id) role decision comment terms ([] : Hooks Unit)) w.state =
      (.ok (.ok result, []), once))
    {point : Point} (under : point ≠ .afterBusy) :
    ∃ settled actions standing, settled.id = id ∧ World.Rests ⟨once, w.calls⟩ settled actions standing ∧
    ∃ broken request trail ticket,
      exec (Approval.submitWith (.text id) role decision comment terms (Stage.breaksAt point : Hooks Unit)) w.state =
        (.ok (.error .connectionLost, []), broken.state) ∧
      Runs environment anyOrder w broken ∧ request.id = id ∧ broken.Rests request trail ticket ∧
      ∀ {again : World}, Runs environment anyOrder broken again → again.state.down = false →
        again.Rests request trail ticket → again.leaseFree id = true →
        (∀ other, again.Stores other → other.id ≠ id → other.status = .pending → other.ticketId ≠ id) →
        again.ComesTo id role decision comment terms actions settled.status standing := by
  obtain ⟨ledger, holds, sequenced⟩ := reached.sequenced
  have ready : Stage.Ready (Approval.made w.state id role decision comment terms) id _ := holds.ready up
  rw [Approval.exec_submitWith] at succeeds
  obtain ⟨left, request, trail, ticket, action, rfl, ⟨course⟩⟩ :=
    ready.course rfl sequenced (Nat.le_refl _) succeeds
  -- What the submission alone makes of the request.
  obtain ⟨status, derived⟩ : ∃ status, status = Submission.derived request (trail ++ [action.kept]) := ⟨_, rfl⟩
  obtain ⟨points, settled, passes, ⟨-, failure, ended⟩ | ⟨time, reported, ended, settles⟩⟩ := course.concludes derived
  · cases (passes.exec_alone ready (Nat.le_refl _) ended).symm.trans succeeds
  obtain rfl : once = settled.state :=
    (Prod.mk.inj (succeeds.symm.trans (passes.exec_alone ready (Nat.le_refl _) ended))).2
  have settles := (rests_iff_of_shownBy (w := ⟨settled.state, w.calls⟩) (ready.passes passes).shown).2 settles
  refine ⟨request.moved status time, _, _, rfl, settles, ?_⟩
  -- What it leaves where its connection breaks.
  obtain ⟨last, broken, cutOff, shown, rests⟩ := course.cut under
  have follows := broken.exec_follow (β := Unit) ready cutOff (Nat.le_refl _)
  rw [← Approval.exec_submitWith] at follows
  have breaks : Runs environment anyOrder w ⟨last.state, w.calls ++ [⟨_, last.phase⟩]⟩ :=
    (Runs.next .stay (.submit request.id role decision comment terms) rfl rfl).trans (runs_of_cutAt broken)
  refine ⟨_, request, _, ticket, follows, breaks, rfl, (rests_iff_of_shownBy shown).2 rests, ?_⟩
  intro again later upThen stands free apart
  -- What the retry makes of that.
  obtain ⟨there, holdsThen, sequenced⟩ := (reached.anyOrder.trans (breaks.trans later)).sequenced
  have uncontended : ¬ there.Contended request.id := by
    rintro ⟨other, known, different, pending, about⟩
    exact apart other.request (holdsThen.stores_iff.2 ⟨other, known, rfl⟩) different pending about
  refine holdsThen.settled sequenced upThen ((rests_iff_of_shownBy holdsThen.shown).1 stands) free left ?_
  intro leased inside here
  by_cases recorded : point = .afterRecord
  · rw [if_pos recorded] at inside
    exact inside.again (course.accepts.withToken _) course.inLine derived here uncontended
  · rw [if_neg recorded] at inside
    exact inside.afresh (course.accepts.withToken _) course.inLine derived here uncontended

end World

namespace Trial

/-- What becomes of the service when the role X approves the request, and the hooks run. -/
def approvedBy (w : World) (hooks : Hooks Unit) :
    Except Failure (Except Failure ActionResult × List Unit) × ServiceState :=
  exec (Approval.submitWith (.text requestId) (.text "X") .approve .null environment.terms hooks) w.state

/-- Whether the approval succeeds and decides the request. -/
def succeeds (w : World) : Bool :=
  match approvedBy w [] with
  | (.ok (.ok _, []), once) => !World.storesAny ⟨once, []⟩ fun request => request.status != .approved
  | _ => false

/-- Whether the approval may be made once more where its connection broke. -/
def mayRetry (w : World) (point : Point) : Bool :=
  let broken : World := ⟨(approvedBy w (Stage.breaksAt point)).2, []⟩
  !broken.state.down && broken.leaseFree requestId &&
    !broken.storesAny fun request => request.status == .pending && request.ticketId == requestId

end Trial

namespace World

/-- An approval that is cut off when it is recorded comes to the same when it is made once more. -/
theorem retry_after_cut_of_approval :
    ∃ w broken actions standing, Runs Trial.environment anyOrder start w ∧ Runs Trial.environment anyOrder w broken ∧
      Trial.approvedBy w (Stage.breaksAt .afterRecord) = (.ok (.error .connectionLost, []), broken.state) ∧
      broken.ComesTo Trial.requestId (.text "X") .approve .null Trial.environment.terms actions .approved standing := by
  obtain ⟨w, reached, found⟩ := Runs.exists_of_play
    (p := fun w => (!w.state.down && Trial.succeeds w) && Trial.mayRetry w .afterRecord)
    (show (start.play Trial.environment anyOrder (Trial.opening ["X"])).any _ = true by decide +kernel)
  obtain ⟨fine, may⟩ := Bool.and_eq_true_iff.1 found
  obtain ⟨up, succeeds⟩ := Bool.and_eq_true_iff.1 fine
  unfold Trial.succeeds at succeeds
  split at succeeds
  · next result once ran =>
      obtain ⟨settled, actions, standing, -, settles, broken, request, trail, ticket, breaks, cut, -, rests, retries⟩ :=
        retry_after_cut reached (by simpa using up) ran (show Point.afterRecord ≠ .afterBusy by decide)
      have left : (Trial.approvedBy w (Stage.breaksAt .afterRecord)).2 = broken.state := congrArg Prod.snd breaks
      unfold Trial.mayRetry at may
      rw [left] at may
      obtain ⟨around, apart⟩ := Bool.and_eq_true_iff.1 may
      obtain ⟨stillUp, free⟩ := Bool.and_eq_true_iff.1 around
      have approved : settled.status = .approved := by
        by_contra other
        have found : World.storesAny ⟨once, []⟩ (fun request => request.status != .approved) = true :=
          storesAny_of_stores settles.stored (by simp [other])
        simp [found] at succeeds
      have retried := retries .stay (by simpa using stillUp) rests free ?_
      · rw [approved] at retried
        exact ⟨w, broken, actions, standing, reached, cut, breaks, retried⟩
      · intro other stored _ pending about
        have found : World.storesAny ⟨broken.state, []⟩
            (fun request => request.status == .pending && request.ticketId == Trial.requestId) = true :=
          storesAny_of_stores stored (by simp [pending, about])
        simp [found] at apart
  · cases succeeds

end World

end Countersign
