/-
Module: Countersign.Proofs.Submission.Steps
Purpose: The steps of submissions go by the rules of their phases.
Main exports: Submission.On, Phase.Goes, Phase.step_goes
-/
import Countersign.Proofs.Ledger.Links
import Countersign.Proofs.Submission.Phases

namespace Countersign

open Service

/-!
One lemma for each phase: whatever the store answers, the step that follows is one that the rules of the phase
have, and the store then shows the ledger that the rule tells of.
-/

/-- A submission on the request of an id, with a token that the store can keep. -/
structure Submission.On (call : Submission) (id : String) : Prop where
  requestId : call.requestId = .text id
  whole : Text.hasHalf call.token = false

/-- The tokens that submissions are given are such. -/
theorem Submission.On.of_token {call : Submission} {id : String} {number : Nat} (requestId : call.requestId = .text id)
    (token : call.token = idText "LOCK" number) : call.On id := by
  have plain : ∀ c ∈ "LOCK".toList, c ≠ Text.mark := Text.unmarked_of_below rfl
  exact ⟨requestId, token ▸ hasHalf_idText plain number⟩

namespace Phase

variable {call : Submission} {id : String} {ledger : Ledger} {s : ServiceState} {phase : Phase}

/-- The next step of a submission, as the service takes it and as the rules of the phases tell of it. -/
structure Goes (call : Submission) (id : String) (ledger : Ledger) (s : ServiceState) (phase : Phase)
    (next : Phase) (s' : ServiceState) (after : Ledger) : Prop where
  ran : exec (phase.step call) s = (.ok next, s')
  shows : after.ShownBy s'.store
  moves : Moves call id s.down ledger phase after next
  down : s'.down = s.down
  taken : ∀ kind, s.taken kind ≤ s'.taken kind
  counts : Counts ledger after (s.taken "ACT") (s'.taken "ACT") phase next

theorem exec_step_ok {next : Phase} {s' : ServiceState}
    (ran : exec (phase.advance call) s = (.ok next, s')) :
    exec (phase.step call) s = (.ok next, s') := by
  rw [step, exec_bind, exec_attempt, ran]
  rfl

theorem exec_step_error {failure : Failure} {s' : ServiceState}
    (ran : exec (phase.advance call) s = (.error failure, s')) :
    exec (phase.step call) s = (.ok (phase.onFailure failure), s') := by
  rw [step, exec_bind, exec_attempt, ran]
  rfl

/-- A step that takes no id and records no action. -/
theorem Goes.still {next : Phase} {s' : ServiceState} {after : Ledger}
    (ran : exec (phase.step call) s = (.ok next, s')) (shows : after.ShownBy s'.store)
    (moves : Moves call id s.down ledger phase after next) (down : s'.down = s.down)
    (counters : s'.counters = s.counters) (actions : after.actions = ledger.actions) :
    phase.Goes call id ledger s next s' after := by
  have taken (kind : String) : s'.taken kind = s.taken kind := by
    rw [ServiceState.taken, ServiceState.taken, counters]
  exact ⟨ran, shows, moves, down, fun kind => Nat.le_of_eq (taken kind).symm, .still (taken "ACT") actions⟩

/-- A phase goes by the rules when it fails without touching the store. -/
theorem goes_failed {failure : Failure} {s' : ServiceState} (fails : Fails call id s.down ledger phase failure)
    (ran : exec (phase.advance call) s = (.error failure, s')) (shows : ledger.ShownBy s'.store)
    (down : s'.down = s.down) (counters : s'.counters = s.counters) :
    ∃ next s' after, phase.Goes call id ledger s next s' after :=
  ⟨_, _, _, .still (exec_step_error ran) shows (.failed failure fails) down counters rfl⟩

/-- The same when it fails without touching anything. -/
theorem goes_stuck {failure : Failure} (fails : Fails call id s.down ledger phase failure)
    (ran : exec (phase.advance call) s = (.error failure, s)) (shown : ledger.ShownBy s.store) :
    ∃ next s' after, phase.Goes call id ledger s next s' after :=
  goes_failed fails ran shown rfl rfl

/-- A request that a submission carries is there. -/
theorem exec_get_carried {request : Request} (up : s.down = false) (shown : ledger.ShownBy s.store)
    (carries : ledger.Carries id call.token request) :
    ∃ holding ∈ ledger.requests, holding.request.id = id ∧
      exec (RequestStore.get (.text id)) s = (.ok holding.request, s) := by
  obtain ⟨holding, member, same⟩ := carries.origin
  have about := same.id.trans carries.about
  refine ⟨holding, member, about, ?_⟩
  rw [← about]
  exact RequestStore.exec_get_known up shown member

/-! ### Taking the lease -/

/-- A submission that may try asks for the lease, and goes on by the answer. -/
theorem advance_claiming (on : call.On id) {tries : Nat} (left : ¬ call.terms.attempts ≤ tries) :
    (claiming tries).advance call =
      RequestStore.claim? (.text id) (.text call.token) call.terms.length >>= fun found =>
        found.elim (pure (probing tries)) fun request => pure (leased request) := by
  rw [advance, if_neg left, on.requestId]
  congr 1
  funext found
  cases found <;> rfl

theorem claiming_goes (on : call.On id) (shown : ledger.ShownBy s.store) (tries : Nat) :
    ∃ next s' after, (claiming tries).Goes call id ledger s next s' after := by
  by_cases spent : call.terms.attempts ≤ tries
  · obtain ⟨failure, journal, gaveUp⟩ : ∃ failure journal,
        exec ((claiming tries).advance call) s = (.error failure, { s with journal }) := by
      rw [advance, if_pos spent]
      exact ⟨_, _, rfl⟩
    exact goes_failed (.spent spent _) gaveUp shown rfl rfl
  have tried := advance_claiming on spent
  rcases Bool.eq_false_or_eq_true s.down with down | up
  · have failed : exec ((claiming tries).advance call) s = (.error .storeDown, s) := by
      rw [tried, exec_bind_error (RequestStore.exec_claim?_down down _ _ _)]
    exact goes_stuck (.unreached down rfl) failed shown
  -- An unknown request and one whose lease is taken look the same here. The probe that follows tells them apart.
  by_cases known : ∃ holding ∈ ledger.requests, holding.request.id = id ∧
      holding.isFree (RequestStore.secondsAt s) = true
  · obtain ⟨holding, member, rfl, free⟩ := known
    obtain ⟨table, claimed, shows⟩ :=
      RequestStore.exec_claim?_free up shown member free on.whole call.terms.length
    have took : exec ((claiming tries).advance call) s =
        (.ok (leased holding.request), { s with store := s.store.setTable .requests table }) := by
      rw [tried, exec_bind_ok claimed]
      rfl
    exact ⟨_, _, _, .still (exec_step_ok took) shows (.leased holding member rfl _ free) rfl rfl rfl⟩
  · have taken : ∀ holding ∈ ledger.requests, holding.request.id = id →
        holding.isFree (RequestStore.secondsAt s) = false := by
      intro holding member same
      by_contra free
      exact known ⟨holding, member, same, by simpa using free⟩
    have busy := RequestStore.exec_claim?_taken id up shown taken (.text call.token) call.terms.length
    have missed : exec ((claiming tries).advance call) s = (.ok (probing tries), s) := by
      rw [tried, exec_bind_ok busy]
      rfl
    exact ⟨_, _, _, .still (exec_step_ok missed) shown
      (.busy fun holding member same => ⟨_, taken holding member same⟩) rfl rfl rfl⟩

theorem probing_goes (shown : ledger.ShownBy s.store) (tries : Nat) :
    ∃ next s' after, (probing tries).Goes call id ledger s next s' after := by
  have unmoved := RequestStore.exec_ensureKnown_state (s := s) call.requestId
  cases ran : exec (RequestStore.ensureKnown call.requestId) s with
  | mk outcome s' =>
      rw [ran] at unmoved
      subst unmoved
      cases outcome with
      | error failure =>
          have failed : exec ((probing tries).advance call) s' = (.error failure, s') := by
            rw [advance, exec_bind_error ran]
          exact goes_stuck (.unknown failure) failed shown
      | ok known =>
          have found : exec ((probing tries).advance call) s' = (.ok (waiting tries), s') := by
            rw [advance, exec_bind_ok ran]
            rfl
          exact ⟨_, _, _, .still (exec_step_ok found) shown .probed rfl rfl rfl⟩

/-- Waiting changes at most the clock. -/
theorem exec_pause_cases (call : Submission) (s : ServiceState) :
    (∃ failure, exec call.pause s = (.error failure, s)) ∨
      ∃ clock, exec call.pause s = (.ok (), { s with clock }) := by
  unfold Submission.pause
  cases call.terms.pause.scaledNearest 1000000 with
  | none => exact Or.inl ⟨_, rfl⟩
  | some micros =>
      simp only [waitWithin]
      rw [exec_bind, exec_get]
      dsimp only
      split
      · exact Or.inr ⟨_, rfl⟩
      · exact Or.inl ⟨_, rfl⟩

theorem waiting_goes (shown : ledger.ShownBy s.store) (tries : Nat) :
    ∃ next s' after, (waiting tries).Goes call id ledger s next s' after := by
  by_cases more : (tries : Int) + 1 < call.terms.attempts
  · have paused : (waiting tries).advance call =
        call.pause >>= fun _ => pure (claiming (tries + 1)) := by
      rw [advance, if_pos more]
    rcases exec_pause_cases call s with ⟨failure, failed⟩ | ⟨clock, passed⟩
    · have stuck : exec ((waiting tries).advance call) s = (.error failure, s) := by
        rw [paused, exec_bind_error failed]
      exact goes_stuck (.late failure) stuck shown
    · have waited : exec ((waiting tries).advance call) s =
          (.ok (claiming (tries + 1)), { s with clock }) := by
        rw [paused, exec_bind_ok passed]
        rfl
      exact ⟨_, _, _, .still (exec_step_ok waited) shown .waited rfl rfl rfl⟩
  · have waited : exec ((waiting tries).advance call) s = (.ok (claiming (tries + 1)), s) := by
      rw [advance, if_neg more]
      rfl
    exact ⟨_, _, _, .still (exec_step_ok waited) shown .waited rfl rfl rfl⟩

/-! ### Under the lease -/

theorem leased_goes (on : call.On id) (shown : ledger.ShownBy s.store) (request : Request) :
    ∃ next s' after, (leased request).Goes call id ledger s next s' after := by
  rcases Bool.eq_false_or_eq_true s.down with down | up
  · have failed : exec ((leased request).advance call) s = (.error .storeDown, s) := by
      rw [advance, exec_bind_error (Trail.exec_listFor_down down _)]
    exact goes_stuck (.unreached down rfl) failed shown
  · have listed : exec ((leased request).advance call) s =
        (.ok (informed request (ledger.history id)), s) := by
      rw [advance, on.requestId, exec_bind_ok (Trail.exec_listFor up shown id)]
      rfl
    exact ⟨_, _, _, .still (exec_step_ok listed) shown .informed rfl rfl rfl⟩

theorem informed_goes (shown : ledger.ShownBy s.store) {request : Request} {history : List Action}
    (knows : (informed request history).Knows ledger id call.token) :
    ∃ next s' after, (informed request history).Goes call id ledger s next s' after := by
  by_cases inLine : (request.status.isTerminal ||
      Submission.derived request history == request.status) = true
  · have agreed : exec ((informed request history).advance call) s =
        (.ok (judging request history), s) := by
      simp only [advance, inLine, if_true]
      rfl
    refine ⟨_, _, _, .still (exec_step_ok agreed) shown (.agreed ?_) rfl rfl rfl⟩
    · rcases Bool.or_eq_true_iff.1 inLine with terminal | same
      · exact Or.inl terminal
      · exact Or.inr (beq_iff_eq.1 same).symm
  have drifted := inLine
  simp only [Bool.or_eq_true, not_or, beq_iff_eq] at drifted
  have pending := ApprovalStatus.eq_pending_of_not_terminal drifted.1
  obtain ⟨journal, noted⟩ : ∃ journal, exec
      (Submission.noteDrift request (Submission.derived request history)) s =
        (.ok (), { s with journal }) := exec_note _ _ _ _ _ s
  have opened : exec ((informed request history).advance call) s =
      exec (RequestStore.get (.text request.id) >>= fun found =>
        pure (restoring request history found.ticketId (Moment.ofClock s.clock)))
          { s with journal } := by
    simp only [advance]
    rw [if_neg inLine, exec_bind_ok noted, exec_bind, exec_now]
  have about := knows.1.about
  rcases Bool.eq_false_or_eq_true s.down with down | up
  · have looked := RequestStore.exec_get_down (s := { s with journal }) down (.text request.id)
    exact goes_failed (.unreached down rfl) (opened.trans (exec_bind_error looked _)) shown rfl rfl
  · obtain ⟨holding, member, same, looked⟩ :=
      exec_get_carried (s := { s with journal }) up shown knows.1
    rw [← about] at looked
    exact ⟨_, _, _, .still (exec_step_ok (opened.trans (exec_bind_ok looked _))) shown
      (.lagging pending (pending ▸ drifted.2) holding member (same.trans about.symm) s.clock) rfl rfl rfl⟩

/-- A status is written for the holder of the lease on a request that was read before, or not at all: the store
is down, another request has the key that goes with the status, or the lease was lost. -/
theorem exec_write?_cases {request : Request} (shown : ledger.ShownBy s.store)
    (carries : ledger.Carries id call.token request) (status : ApprovalStatus) {time : Moment}
    (within : time.leavesCalendar = false) (releasing : Bool) :
    (s.down = true ∧ exec (RequestStore.write? (.text id) (.text call.token) request.ticketId status time
      releasing) s = (.error .storeDown, s)) ∨
    ((∃ holding ∈ ledger.requests, holding.request.id = id ∧ ∃ other ∈ ledger.requests, other ≠ holding ∧
        other.key = (holding.moved status time releasing).key) ∧
      exec (RequestStore.write? (.text id) (.text call.token) request.ticketId status time
        releasing) s = (.error (.store .keyTaken), s)) ∨
    ((∀ holding ∈ ledger.requests, holding.request.id = id → holding.holder? ≠ some call.token) ∧
      exec (RequestStore.write? (.text id) (.text call.token) request.ticketId status time
        releasing) s = (.ok none, s)) ∨
    ∃ holding ∈ ledger.requests, s.down = false ∧ holding.request.id = id ∧
      holding.holder? = some call.token ∧ ∃ table journal,
        exec (RequestStore.write? (.text id) (.text call.token) request.ticketId status
          time releasing) s =
        (.ok (some (holding.request.moved status time)),
          { s with store := s.store.setTable .requests table, journal }) ∧
        (ledger.move id status time releasing).ShownBy (s.store.setTable .requests table) := by
  rcases Bool.eq_false_or_eq_true s.down with down | up
  · exact Or.inl ⟨down, RequestStore.exec_write?_down down _ _ _ _ _ _⟩
  by_cases held : ∃ holding ∈ ledger.requests, holding.request.id = id ∧
      holding.holder? = some call.token
  · obtain ⟨holding, member, rfl, held⟩ := held
    have same := carries.fenced holding member rfl held
    rw [← same]
    rcases RequestStore.exec_write?_held up shown member held status within releasing with
      ⟨-, table, journal, written, shows⟩ | ⟨⟨other, inside, different, taken⟩, failed⟩
    · exact Or.inr (Or.inr (Or.inr ⟨holding, member, up, rfl, held, table, journal, written, shows⟩))
    · exact Or.inr (Or.inl ⟨⟨holding, member, rfl, other, inside, different, taken⟩, failed⟩)
  · have others : ∀ holding ∈ ledger.requests, holding.request.id = id →
        holding.holder? ≠ some call.token :=
      fun holding member same taken => held ⟨holding, member, same, taken⟩
    exact Or.inr (Or.inr (Or.inl ⟨others, RequestStore.exec_write?_other up shown others _ _ _ _⟩))

theorem restoring_goes (shown : ledger.ShownBy s.store) {request : Request} {history : List Action}
    {ticketId : String} {time : Moment}
    (knows : (restoring request history ticketId time).Knows ledger id call.token) :
    ∃ next s' after, (restoring request history ticketId time).Goes call id ledger s next s' after := by
  obtain ⟨carries, -, -, -, rfl, within⟩ := knows
  have about := carries.about
  have stuck {failure : Failure} (failed : exec (RequestStore.write? (.text id) (.text call.token)
      request.ticketId (Submission.derived request history) time false) s = (.error failure, s)) :
      ∃ next s' after,
        (restoring request history request.ticketId time).Goes call id ledger s next s' after := by
    refine goes_stuck (.lostRestoring failure) ?_ shown
    rw [advance, about, exec_bind_error failed]
  rcases exec_write?_cases shown carries (Submission.derived request history) within false with
    ⟨-, failed⟩ | ⟨-, failed⟩ | ⟨-, lost⟩ | ⟨holding, member, up, same, held, table, journal, written, shows⟩
  · exact stuck failed
  · exact stuck failed
  · have refused : exec ((restoring request history request.ticketId time).advance call) s =
        (.error (.refused (.leaseLostRestoring (.text id))), s) := by
      rw [advance, about, exec_bind_ok lost]
      rfl
    exact goes_stuck (.lostRestoring _) refused shown
  · have restored : exec ((restoring request history request.ticketId time).advance call) s =
        (.ok (spreading (holding.request.moved (Submission.derived request history) time) history),
          { s with store := s.store.setTable .requests table, journal }) := by
      rw [advance, about, exec_bind_ok written]
      rfl
    rw [← about] at shows
    exact ⟨_, _, _, .still (exec_step_ok restored) shows
      (.restored up holding member (same.trans about.symm) held) rfl rfl rfl⟩

theorem spreading_goes (shown : ledger.ShownBy s.store) (request : Request) (history : List Action) :
    ∃ next s' after, (spreading request history).Goes call id ledger s next s' after := by
  rcases Bool.eq_false_or_eq_true s.down with down | up
  · have failed : exec ((spreading request history).advance call) s = (.error .storeDown, s) := by
      rw [advance, exec_bind_error (Approval.exec_tellTicket_down down _)]
    exact goes_stuck (.unreached down rfl) failed shown
  obtain ⟨table, journal, told, shows⟩ := Approval.exec_tellTicket up shown request
  have spread : exec ((spreading request history).advance call) s =
      (.ok (judging request history),
        { s with store := s.store.setTable .tickets table, journal }) := by
    rw [advance, exec_bind_ok told]
    rfl
  exact ⟨_, _, _, .still (exec_step_ok spread) shows (.spread up) rfl rfl rfl⟩

theorem judging_goes (on : call.On id) (shown : ledger.ShownBy s.store)
    (linked : ledger.Linked (s.taken "ACT")) {request : Request} {history : List Action}
    (knows : (judging request history).Knows ledger id call.token) :
    ∃ next s' after, (judging request history).Goes call id ledger s next s' after := by
  -- A number is spent on the action even where the trail then does not take it.
  cases objected : call.objection? request history with
  | some refusal =>
      have refused : exec ((judging request history).advance call) s =
          (.error (.refused refusal), s) := by
        rw [advance, objected]
        rfl
      exact goes_stuck (.objected objected) refused shown
  | none =>
      have opened : (judging request history).advance call =
          Trail.record (.text id) call.role call.decision (.int (history.length + 1 : Nat)) call.comment
            >>= fun action => pure (recorded request history action) := by
        rw [advance, objected, on.requestId]
      have placed : (1 : Int) ≤ (history.length + 1 : Nat) := by omega
      have plain : ∀ c ∈ id.toList, c ≠ Text.mark := by
        obtain ⟨holding, member, same⟩ := knows.1.origin
        rw [← knows.1.about, ← same.id]
        exact (linked.plain member).2
      have counted : (s.afterNew "ACT").taken "ACT" = s.taken "ACT" + 1 := by
        rw [ServiceState.taken_afterNew, if_pos rfl]
      rcases Trail.exec_record_cases shown plain call.role call.decision placed call.comment with
        ⟨failure, misses, failed⟩ |
          ⟨action, table, journal, done, shows, recorded, numbered, up, kept⟩
      · have stuck : exec ((judging request history).advance call) s =
            (.error failure, s.afterNew "ACT") := by
          rw [opened, exec_bind_error failed]
        have other (id : Value) : failure ≠ .refused (.leaseLost id) := by
          rintro rfl
          cases misses
        exact ⟨_, _, _, exec_step_error stuck, shown,
          .failed failure (.missed _ objected (linked.next_fresh (Nat.lt_succ_self _)) misses), rfl,
          fun kind => s.taken_le_afterNew "ACT" kind, .missed counted rfl other⟩
      · have wrote : exec ((judging request history).advance call) s =
            (.ok (Phase.recorded request history action),
              { s.afterNew "ACT" with store := s.store.setTable .actions table, journal }) := by
          rw [opened, exec_bind_ok done]
          rfl
        exact ⟨_, _, _, exec_step_ok wrote, shows, .recorded action objected recorded kept, rfl,
          fun kind => s.taken_le_afterNew "ACT" kind, .recorded counted numbered rfl⟩

theorem recorded_goes (on : call.On id) (shown : ledger.ShownBy s.store) {request : Request}
    {history : List Action} {action : Action}
    (knows : (recorded request history action).Knows ledger id call.token) :
    ∃ next s' after, (recorded request history action).Goes call id ledger s next s' after := by
  have opened : exec ((recorded request history action).advance call) s =
      exec (RequestStore.get (.text id) >>= fun found =>
        pure (committing request history action found.ticketId (Moment.ofClock s.clock))) s := by
    rw [advance, exec_bind, exec_now, on.requestId]
  rcases Bool.eq_false_or_eq_true s.down with down | up
  · have looked := RequestStore.exec_get_down down (.text id)
    exact goes_stuck (.unreached down rfl) (opened.trans (exec_bind_error looked _)) shown
  · obtain ⟨holding, member, same, looked⟩ := exec_get_carried up shown knows.1
    exact ⟨_, _, _, .still (exec_step_ok (opened.trans (exec_bind_ok looked _))) shown
      (.looked holding member same s.clock) rfl rfl rfl⟩

theorem committing_goes (on : call.On id) (shown : ledger.ShownBy s.store) {request : Request}
    {history : List Action} {action : Action} {ticketId : String} {time : Moment}
    (knows : (committing request history action ticketId time).Knows ledger id call.token) :
    ∃ next s' after,
      (committing request history action ticketId time).Goes call id ledger s next s' after := by
  obtain ⟨carries, -, -, rfl, within⟩ := knows
  have stuck {failure : Failure} (failed : exec (RequestStore.write? (.text id) (.text call.token)
      request.ticketId (Submission.derived request (history ++ [action])) time true) s =
        (.error failure, s)) :
      exec ((committing request history action request.ticketId time).advance call) s =
        (.error failure, s) := by
    rw [advance, on.requestId, exec_bind_error failed]
  rcases exec_write?_cases shown carries (Submission.derived request (history ++ [action])) within true
    with ⟨down, failed⟩ | ⟨⟨holding, member, same, other, inside, different, taken⟩, failed⟩ |
      ⟨others, lost⟩ | ⟨holding, member, up, same, held, table, journal, written, shows⟩
  · exact goes_stuck (.unreached down rfl) (stuck failed) shown
  · exact goes_stuck (.keyTaken member same inside different taken) (stuck failed) shown
  · have refused : exec ((committing request history action request.ticketId time).advance call) s =
        (.error (.refused (.leaseLost (.text id))), s) := by
      rw [advance, on.requestId, exec_bind_ok lost]
      rfl
    exact goes_stuck (.lost others) refused shown
  · have committed : exec
        ((committing request history action request.ticketId time).advance call) s =
          (.ok (releasing (.ok ⟨holding.request.moved
              (Submission.derived request (history ++ [action])) time, action, request.status⟩)),
            { s with store := s.store.setTable .requests table, journal }) := by
      rw [advance, on.requestId, exec_bind_ok written]
      rfl
    exact ⟨_, _, _, .still (exec_step_ok committed) shows (.committed up holding member same held)
      rfl rfl rfl⟩

/-! ### Giving up the lease and telling the ticket -/

theorem releasing_goes (on : call.On id) (shown : ledger.ShownBy s.store)
    (outcome : Except Failure ActionResult) :
    ∃ next s' after, (releasing outcome).Goes call id ledger s next s' after := by
  rcases Bool.eq_false_or_eq_true s.down with down | up
  · have failed : exec ((releasing outcome).advance call) s = (.error .storeDown, s) := by
      rw [advance.eq_def]
      exact exec_bind_error (RequestStore.exec_release_down down _ _) _
    exact goes_stuck (.unreached down rfl) failed shown
  have goesOn {told : Bool} {s' : ServiceState}
      (gaveUp : exec (RequestStore.release (.text id) (.text call.token)) s = (.ok told, s')) :
      exec ((releasing outcome).step call) s = (.ok (afterRelease outcome), s') := by
    cases outcome with
    | ok result =>
        have goesOn : exec ((releasing (.ok result)).advance call) s = (.ok (announcing result), s') := by
          rw [advance, on.requestId, exec_bind_ok gaveUp]
          rfl
        exact exec_step_ok goesOn
    | error failure =>
        have ends : exec ((releasing (.error failure)).advance call) s = (.error failure, s') := by
          rw [advance, on.requestId, exec_bind_ok gaveUp]
          rfl
        exact exec_step_error ends
  by_cases held : ∃ holding ∈ ledger.requests, holding.request.id = id ∧
      holding.holder? = some call.token
  · obtain ⟨holding, member, rfl, held⟩ := held
    obtain ⟨told, table, gaveUp, shows⟩ := RequestStore.exec_release_held up shown member held
    exact ⟨_, _, _, .still (goesOn gaveUp) shows (.released up holding member rfl held) rfl rfl rfl⟩
  · have other : ∀ holding ∈ ledger.requests, holding.request.id = id →
        holding.holder? ≠ some call.token :=
      fun holding member same taken => held ⟨holding, member, same, taken⟩
    exact ⟨_, _, _, .still (goesOn (RequestStore.exec_release_other up shown other)) shown
      (.lost up other) rfl rfl rfl⟩

theorem announcing_goes (shown : ledger.ShownBy s.store) (result : ActionResult) :
    ∃ next s' after, (announcing result).Goes call id ledger s next s' after := by
  obtain ⟨journal, noted⟩ : ∃ journal, exec (call.noteAccepted result) s =
      (.ok (), { s with journal }) := exec_note _ _ _ _ _ s
  cases changed : result.statusChanged with
  | false =>
      have ends : exec ((announcing result).advance call) s =
          (.ok (done (.ok result)), { s with journal }) := by
        rw [advance, exec_bind_ok noted, changed]
        rfl
      exact ⟨_, _, _, .still (exec_step_ok ends) shown (.quiet changed) rfl rfl rfl⟩
  | true =>
      have opened : exec ((announcing result).advance call) s =
          exec (Approval.tellTicket result.request >>= fun _ => pure (done (.ok result)))
            { s with journal } := by
        rw [advance, exec_bind_ok noted, if_pos changed]
      rcases Bool.eq_false_or_eq_true s.down with down | up
      · exact goes_failed (.unreached down rfl) (opened.trans (exec_bind_error
          (Approval.exec_tellTicket_down (s := { s with journal }) down _) _)) shown rfl rfl
      obtain ⟨table, journal, told, shows⟩ :=
        Approval.exec_tellTicket (s := { s with journal }) up shown result.request
      exact ⟨_, _, _, .still (exec_step_ok (opened.trans (exec_bind_ok told _))) shows
        (.announced changed up) rfl rfl rfl⟩

/-- Every step of a submission goes by the rules of its phase. -/
theorem step_goes (on : call.On id) (shown : ledger.ShownBy s.store)
    (linked : ledger.Linked (s.taken "ACT")) (knows : phase.Knows ledger id call.token) :
    ∃ next s' after, phase.Goes call id ledger s next s' after := by
  cases phase with
  | claiming tries => exact claiming_goes on shown tries
  | probing tries => exact probing_goes shown tries
  | waiting tries => exact waiting_goes shown tries
  | leased request => exact leased_goes on shown request
  | informed request history => exact informed_goes shown knows
  | restoring request history ticketId time => exact restoring_goes shown knows
  | spreading request history => exact spreading_goes shown request history
  | judging request history => exact judging_goes on shown linked knows
  | recorded request history action => exact recorded_goes on shown knows
  | committing request history action ticketId time => exact committing_goes on shown knows
  | releasing outcome => exact releasing_goes on shown outcome
  | announcing result => exact announcing_goes shown result
  | done outcome =>
      have stays : exec ((done outcome).advance call) s = (.ok (done outcome), s) := rfl
      exact ⟨_, _, _, .still (exec_step_ok stays) shown .ended rfl rfl rfl⟩

end Phase

end Countersign
