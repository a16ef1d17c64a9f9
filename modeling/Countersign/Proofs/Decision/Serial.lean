/-
Module: Countersign.Proofs.Decision.Serial
Purpose: Submissions on a request that are made one after the other do what the automaton does.
Main exports: Phase.Stage, Phase.Stage.advanced, World.serialOn, World.Serial, World.Changes.serial,
  World.Runs.serial, World.serial_follows
-/
import Countersign.Proofs.Decision.Openings
import Countersign.Proofs.Decision.Tally
import Countersign.Proofs.Decision.TicketAgreement
import Countersign.Proofs.Submission.Engagement
import Countersign.Proofs.World.Progress

namespace Countersign

open Service

/-!
Where nobody else is under way on a request and the store is up, a submission finds the lease free, gets it at its
first try, and keeps it until it has committed its action or was refused. Then the lease is free again and the
request is in step with its trail, whatever happened to other requests, to tickets and to rules meanwhile. So every
submission decides on what those before it left, and replaying the trail comes to the same as the automaton.
-/

namespace Phase

variable {call : Submission} {ledger after : Ledger} {holding : Holding} {tally : Tally} {trail : List Action}
  {phase next : Phase} {active : Option Call}

/-- Where the latest submission stands on a request, when all others have come to their end and left the request with
a tally and a trail. -/
inductive Stage (ledger : Ledger) (holding : Holding) (tally : Tally) (trail : List Action) : Option Call → Prop where
  | idle (inStep : ledger.InStep holding trail none) (free : holding.lease = none) :
      Stage ledger holding tally trail none
  | fresh {call : Submission} (inStep : ledger.InStep holding trail none) (free : holding.lease = none)
      (named : ∃ role, call.role = .text role) (tries : 1 ≤ call.terms.attempts) :
      Stage ledger holding tally trail (some ⟨call, .claiming 0⟩)
  | engaged {call : Submission} {phase : Phase} {waiting : Option Action}
      (inStep : ledger.InStep holding trail waiting) (held : holding.holder? = some call.token)
      (named : ∃ role, call.role = .text role) (engaged : phase.Engaged call holding.request trail waiting) :
      Stage ledger holding tally trail (some ⟨call, phase⟩)
  | releasing {call : Submission} {outcome : Except Failure ActionResult} {next : Tally} {later : List Action}
      (inStep : ledger.InStep holding later none)
      (leaves : holding.lease = none ∨ holding.holder? = some call.token)
      (verdict : Tally.Verdict holding.request.approvers call tally trail outcome next later) :
      Stage ledger holding tally trail (some ⟨call, .releasing outcome⟩)
  | announcing {call : Submission} {result : ActionResult} {next : Tally} {later : List Action}
      (inStep : ledger.InStep holding later none) (free : holding.lease = none)
      (verdict : Tally.Verdict holding.request.approvers call tally trail (.ok result) next later) :
      Stage ledger holding tally trail (some ⟨call, .announcing result⟩)
  | done {call : Submission} {outcome : Except Failure ActionResult} {next : Tally} {later : List Action}
      (inStep : ledger.InStep holding later none) (free : holding.lease = none)
      (verdict : Tally.Verdict holding.request.approvers call tally trail outcome next later) :
      Stage ledger holding tally trail (some ⟨call, .done outcome⟩)

namespace Stage

/-- A submission stays where it stands while nothing concerns its request. -/
theorem keeps (stage : Stage ledger holding tally trail active)
    (keeps : Ledger.Keeps holding.request.id ledger after) : Stage after holding tally trail active := by
  cases stage with
  | idle inStep free => exact .idle (inStep.keeps keeps) free
  | fresh inStep free named tries => exact .fresh (inStep.keeps keeps) free named tries
  | engaged inStep held named engaged => exact .engaged (inStep.keeps keeps) held named engaged
  | releasing inStep leaves verdict => exact .releasing (inStep.keeps keeps) leaves verdict
  | announcing inStep free verdict => exact .announcing (inStep.keeps keeps) free verdict
  | done inStep free verdict => exact .done (inStep.keeps keeps) free verdict

/-- A submission finds the lease free at its first try. -/
theorem claimed (inStep : ledger.InStep holding trail none) (free : holding.lease = none)
    (named : ∃ role, call.role = .text role) (tries : 1 ≤ call.terms.attempts) (sound : ledger.Sound)
    (moves : Moves call holding.request.id false ledger (.claiming 0) after next) :
    ∃ later : Holding, holding.request.SameOrigin later.request ∧
      Stage after later tally trail (some ⟨call, next⟩) := by
  cases moves with
  | failed failure fails =>
      cases fails with
      | unreached isDown can => cases isDown
      | spent spent failure => omega
  | leased other member same time open_ =>
      obtain rfl := sound.eq_of_id member inStep.member same
      exact ⟨{ other with lease := some ⟨call.token, time.add call.terms.length⟩ }, .refl _,
        .engaged (inStep.leased rfl rfl) rfl named .leased⟩
  | busy taken =>
      obtain ⟨time, closed⟩ := taken holding inStep.member rfl
      rw [Holding.isFree, free] at closed
      cases closed

/-- Under the lease an action is missed only when the store cannot keep it, and otherwise refused when the automaton
refuses it. -/
theorem failed {failure : Failure} {waiting : Option Action} (inStep : ledger.InStep holding trail waiting)
    (held : holding.holder? = some call.token) {role : String} (named : call.role = .text role)
    (engaged : phase.Engaged call holding.request trail waiting) {taken : Nat}
    (sound : ledger.Sound) (linked : ledger.Linked taken)
    (apart : holding.request.id ∉ ledger.tickets.map (·.id))
    (before : tally = .ofHistory holding.request.approvers (trail.map Action.step))
    (fails : Fails call holding.request.id false ledger phase failure) :
    waiting = none ∧ Tally.Verdict holding.request.approvers call tally trail (.error failure) tally trail := by
  have standing : holding.request.status = tally.status := by
    rw [before, inStep.status]
    rfl
  cases fails with
  | unreached isDown can => cases isDown
  | spent spent failure => cases engaged
  | unknown failure => cases engaged
  | late failure => cases engaged
  | lostRestoring failure => cases engaged
  | objected objection =>
      cases engaged with
      | judging => exact ⟨rfl, .of_objection before standing named objection⟩
  | missed number fine fresh misses =>
      cases engaged with
      | judging =>
          have accepts := Tally.decide_of_fine before standing named fine
          have whole : ledger.trailOf holding.request.id ⊆ trail := by
            rw [inStep.trail, Option.toList_none, List.append_nil]
            exact List.Subset.refl _
          obtain ⟨unkept, broken⟩ := Submission.unkept_of_misses fine linked inStep.member whole fresh misses
          exact ⟨rfl, .unkept named accepts unkept broken⟩
  | lost other => exact absurd held (other holding inStep.member rfl)
  | keyTaken member same within different taken =>
      cases engaged with
      | committing accepts =>
          obtain rfl := sound.eq_of_id member inStep.member same
          have pending := (Submission.of_objection?_none accepts.fine).2.1
          exact absurd taken
            (sound.moved_key_free member pending (linked.not_contended apart) within different _ _ _)

/-- Where the lease was given up, the submission has only to tell what came of it. -/
theorem afterRelease {outcome : Except Failure ActionResult} {next : Tally} {later : List Action}
    (inStep : ledger.InStep holding later none) (free : holding.lease = none)
    (verdict : Tally.Verdict holding.request.approvers call tally trail outcome next later) :
    Stage ledger holding tally trail (some ⟨call, Phase.afterRelease outcome⟩) := by
  cases outcome with
  | ok result => exact .announcing inStep free verdict
  | error failure => exact .done inStep free verdict

/-- What was committed is what the automaton makes of the action. -/
theorem accepted {waiting : Option Action} {action : Action} {status : ApprovalStatus} {time : Moment}
    (inStep : ledger.InStep holding trail waiting)
    (committed : after.InStep (holding.moved status time true) (trail ++ [action.kept]) none) {role : String}
    (named : call.role = .text role) (accepts : call.Accepts holding.request trail action)
    (pending : holding.request.status = .pending)
    (before : tally = .ofHistory holding.request.approvers (trail.map Action.step)) :
    Tally.Verdict holding.request.approvers call tally trail
      (.ok ⟨holding.request.moved status time, action, .pending⟩)
      (.ofHistory holding.request.approvers (trail.map Action.step ++ [(role, call.decision)]))
      (trail ++ [action.kept]) := by
  have standing : holding.request.status = tally.status := by
    rw [before, inStep.status]
    rfl
  have step : action.step = (role, call.decision) := by
    rw [Action.step, accepts.recorded.decision, Value.text.inj (named.symm.trans accepts.recorded.role)]
  refine .accepted named (Tally.decide_of_fine before standing named accepts.fine) step
    (pending.symm.trans standing) (committed.status.trans ?_)
  rw [ApprovalStatus.ofActions, List.map_append, ← step]
  rfl

/-- Every step of the latest submission, with the store up. -/
theorem advanced (stage : Stage ledger holding tally trail (some ⟨call, phase⟩)) {taken : Nat}
    (sound : ledger.Sound) (linked : ledger.Linked taken) (apart : holding.request.id ∉ ledger.tickets.map (·.id))
    (before : tally = .ofHistory holding.request.approvers (trail.map Action.step))
    (moves : Moves call holding.request.id false ledger phase after next) :
    ∃ later : Holding, holding.request.SameOrigin later.request ∧
      Stage after later tally trail (some ⟨call, next⟩) := by
  have up {failure : Failure} (fails : Fails call holding.request.id false ledger phase failure)
      (leaves : phase.canFail false = false) : False := by
    rw [fails.canFail] at leaves
    cases leaves
  -- The cases are the stages of the latest submission. Those before it have ended, and nobody comes behind it.
  cases stage with
  | fresh inStep free named tries => exact claimed inStep free named tries sound moves
  | engaged inStep held named engaged =>
      obtain ⟨role, named⟩ := named
      cases engaged.proceeds inStep sound moves with
      | engaged engaged inStep => exact ⟨holding, .refl _, .engaged inStep held ⟨role, named⟩ engaged⟩
      | @committed _ action status time accepts pending committed =>
          exact ⟨_, .moved _ _ _, .releasing committed (Or.inl rfl)
            (accepted inStep committed named accepts pending before)⟩
      | failed fails =>
          obtain ⟨rfl, verdict⟩ := failed inStep held named engaged sound linked apart before fails
          exact ⟨holding, .refl _, .releasing inStep (Or.inr held) verdict⟩
  | releasing inStep leaves verdict =>
      cases moves with
      | failed failure fails => exact (up fails rfl).elim
      | released store other member same held =>
          obtain rfl := sound.eq_of_id member inStep.member same
          exact ⟨{ other with lease := none }, .refl _, afterRelease (inStep.leased rfl rfl) rfl verdict⟩
      | lost store other =>
          exact ⟨holding, .refl _,
            afterRelease inStep (leaves.resolve_right (other holding inStep.member rfl)) verdict⟩
  | announcing inStep free verdict =>
      cases moves with
      | failed failure fails => exact (up fails rfl).elim
      | announced changed store => exact ⟨holding, .refl _, .done (inStep.keeps (.tell _ _ _ _)) free verdict⟩
      | quiet unchanged => exact ⟨holding, .refl _, .done inStep free verdict⟩
  | done inStep free verdict =>
      cases moves with
      | failed failure fails => exact (up fails rfl).elim
      | ended => exact ⟨holding, .refl _, .done inStep free verdict⟩

end Stage

end Phase

/-- Submissions that came to their end one after the other have come to their end. -/
theorem Tally.Follows.isDone {required : List String} {calls : List Call} {tally : Tally} {trail : List Action}
    (follows : Follows required calls tally trail) : ∀ call ∈ calls, call.isDone = true := by
  induction follows with
  | start => exact fun _ within => by cases within
  | next before verdict ih =>
      intro call within
      rcases List.mem_append.1 within with early | last
      · exact ih call early
      · obtain rfl := List.mem_singleton.1 last
        rfl

/-- What stands in a list with another entry behind it is that entry, or stands in the list. -/
theorem split_of_concat {α : Type} {entries front back : List α} {last : Option α} {a : α}
    (same : entries ++ last.toList = front ++ a :: back) :
    (last = some a ∧ front = entries ∧ back = []) ∨ a ∈ entries := by
  cases last with
  | none =>
      rw [Option.toList_none, List.append_nil] at same
      exact Or.inr (by simp [same])
  | some b =>
      rcases List.eq_nil_or_concat back with rfl | ⟨init, c, rfl⟩
      · obtain ⟨rfl, ends⟩ := List.append_inj' same rfl
        obtain rfl := List.singleton_inj.1 ends
        exact Or.inl ⟨rfl, rfl, rfl⟩
      · have whole : entries ++ [b] = (front ++ a :: init) ++ [c] := by
          rw [List.append_assoc, List.cons_append]
          simpa using same
        obtain ⟨rfl, -⟩ := List.append_inj' whole rfl
        exact Or.inr (by simp)

namespace World

variable {environment : Session.Environment} {w w' w₀ w₁ : World} {ledger after : Ledger} {event : Event}
  {request : Request} {since : Nat}

/-- Submissions on the request of an id are made one after the other, each for a role and with a try for the lease at
least, and run to their end while the store is up. Everything else may happen at any time. -/
def serialOn (id : String) : Order := fun w event =>
  match event with
  | .command _ => true
  | .shift around => !around.down
  | .submit requestId role _ _ terms =>
      requestId != id || (role.text?.isSome && decide (1 ≤ terms.attempts) &&
        w.calls.all fun call => !call.isOn id || call.isDone)
  | .advance _ => true
  | .cut index => !w.movesOn id (.cut index)

/-- A world in which all submissions on a request have come to their end, but for the latest, and have done what the
automaton does. -/
def Serial (request : Request) (since : Nat) (w : World) (ledger : Ledger) : Prop :=
  ∃ holding finished active tally trail, w.callsOn request.id since = finished ++ active.toList ∧
    request.SameOrigin holding.request ∧ Tally.Follows holding.request.approvers finished tally trail ∧
    Phase.Stage ledger holding tally trail active

/-- Where all submissions on a request have come to their end, the lease on it is free. -/
theorem Serial.settled (serial : Serial request since w ledger)
    (complete : ∀ call ∈ w.callsOn request.id since, call.isDone = true) :
    ∃ holding tally trail, request.SameOrigin holding.request ∧
      Tally.Follows holding.request.approvers (w.callsOn request.id since) tally trail ∧
      ledger.InStep holding trail none ∧ holding.lease = none := by
  obtain ⟨holding, finished, active, tally, trail, calls, origin, follows, stage⟩ := serial
  rw [calls] at complete ⊢
  cases stage with
  | idle inStep free =>
      rw [Option.toList_none, List.append_nil]
      exact ⟨holding, tally, trail, origin, follows, inStep, free⟩
  | done inStep free verdict => exact ⟨holding, _, _, origin, follows.next verdict, inStep, free⟩
  | fresh inStep free named tries => cases complete _ (List.mem_append_right _ (List.mem_singleton_self _))
  | releasing inStep leaves verdict => cases complete _ (List.mem_append_right _ (List.mem_singleton_self _))
  | announcing inStep free verdict => cases complete _ (List.mem_append_right _ (List.mem_singleton_self _))
  | engaged inStep held named engaged =>
      have ended := complete _ (List.mem_append_right _ (List.mem_singleton_self _))
      cases engaged <;> cases ended

/-- Every event keeps this, when submissions on the request are made one after the other. -/
theorem Changes.serial (changes : w.Changes ledger event w' after) (holds : w.Holds ledger)
    (quiet : w.Quiet request.id since) (up : w.state.down = false)
    (allowed : serialOn request.id w event = true) (apart : request.id ∉ ledger.tickets.map (·.id))
    (serial : Serial request since w ledger) : Serial request since w' after := by
  cases changes.touches holds quiet with
  | aside same keeps still =>
      obtain ⟨holding, finished, active, tally, trail, calls, origin, follows, stage⟩ := serial
      exact ⟨holding, finished, active, tally, trail, same.trans calls, origin, follows,
        stage.keeps (origin.id ▸ keeps)⟩
  | @submitted role comment decision terms submission made later same =>
      subst same
      simp only [serialOn, bne_self_eq_false, Bool.false_or, Bool.and_eq_true, decide_eq_true_eq,
        List.all_eq_true] at allowed
      obtain ⟨⟨named, tries⟩, complete⟩ := allowed
      obtain ⟨holding, tally, trail, origin, follows, inStep, free⟩ := serial.settled fun call member => by
        obtain ⟨index, here⟩ := mem_calls_of_mem_callsOn member
        simpa [(List.mem_filter.1 member).2] using complete call (List.mem_of_getElem? here)
      refine ⟨holding, _, some ⟨submission, .claiming 0⟩, tally, trail, later, origin, follows,
        .fresh inStep free ?_ ?_⟩
      · rw [made]
        exact (Option.isSome_iff_exists.1 named).imp fun name given => Value.text?_eq_some_iff.1 given
      · rw [made]
        exact tries
  | @advanced index call next front back before later on knows moves =>
      obtain ⟨holding, finished, active, tally, trail, calls, origin, follows, stage⟩ := serial
      -- It is the latest that goes on, or one that has ended and so changes nothing.
      rcases split_of_concat (calls.symm.trans before) with ⟨rfl, rfl, rfl⟩ | early
      · rw [up, ← origin.id] at moves
        rw [← origin.id] at apart
        obtain ⟨moved, further, stage⟩ :=
          stage.advanced holds.sound holds.linked apart follows.eq_ofHistory moves
        refine ⟨moved, front, some { call with phase := next }, tally, trail, later, origin.trans further, ?_,
          stage⟩
        rw [further.approvers]
        exact follows
      · obtain ⟨rfl, rfl⟩ := still_of_isDone (follows.isDone call early) moves
        exact ⟨holding, finished, active, tally, trail, later.trans (before.symm.trans calls), origin, follows,
          stage⟩
  | @cut index call front back here before later on same =>
      have about : call.isOn request.id = true := (Call.isOn_iff on).2 rfl
      simp [serialOn, movesOn, Event.mover?, here, about] at allowed

/-- The store stays up. -/
theorem Changes.up {id : String} (changes : w.Changes ledger event w' after) (up : w.state.down = false)
    (allowed : serialOn id w event = true) : w'.state.down = false := by
  cases changes with
  | commanded commanded down few => exact down.trans up
  | shifted down same => simpa [serialOn, down] using allowed
  | submitted on made down same => exact down.trans up
  | advanced here on knows moves down counts => exact down.trans up
  | cut here point => exact up

/-- So a whole run keeps it. -/
theorem Runs.serial (runs : Runs environment (serialOn request.id) w w') (holds : w.Holds ledger)
    (up : w.state.down = false) (quiet : w.Quiet request.id since) (serial : Serial request since w ledger)
    (apart : ∀ status, ¬ w'.TicketIs request.id status) :
    ∃ after, w'.Holds after ∧ Serial request since w' after := by
  -- A ticket with the id of the request would be there to the end, so the condition may wait until then.
  obtain ⟨after, later, -, -, -, known⟩ := runs.preserves
    (P := fun w ledger => w.state.down = false ∧ w.Quiet request.id since ∧
      (request.id ∉ ledger.tickets.map (·.id) → Serial request since w ledger))
    (fun holds known allowed _ changes _ => ⟨changes.up known.1 allowed, changes.quiet known.2.1, fun apart =>
      changes.serial holds known.2.1 known.1 allowed (fun within => apart (changes.tickets within))
        (known.2.2 fun within => apart (changes.tickets within))⟩)
    holds ⟨up, quiet, fun _ => serial⟩
  refine ⟨after, later, known fun within => ?_⟩
  obtain ⟨mark, member, same⟩ := List.mem_map.1 within
  exact apart mark.status (later.ticketIs_iff.2 (same ▸ member))

/-- After a command opened a request, submissions on it that are made one after the other, while the store is up and
whatever happens to rules, tickets and other requests, come to their end and do what the automaton does. When they have
ended, the trail has exactly the actions that were accepted, in their order and in the places one, two, three and so
on. The request has a version more than there are actions, it stands as the automaton does and as its trail amounts to,
and it has a time at which it was decided if and only if it is decided. -/
theorem serial_follows {step : Session.Step} (reached : Runs environment anyOrder start w₀)
    (opens : w₀.Opens environment step w₁ request) (up : w₁.state.down = false)
    (before : ∀ call ∈ w₁.calls, call.isOn request.id = true → call.isDone = true)
    (runs : Runs environment (serialOn request.id) w₁ w)
    (apart : ∀ status, ¬ w.TicketIs request.id status) :
    (∃ w', Runs environment (serialOn request.id) w w' ∧
      (w'.callsOn request.id w₁.calls.length).map (·.submission) =
        (w.callsOn request.id w₁.calls.length).map (·.submission) ∧
      ∀ call ∈ w'.callsOn request.id w₁.calls.length, call.isDone = true) ∧
    ((∀ call ∈ w.callsOn request.id w₁.calls.length, call.isDone = true) →
      ∃ tally trail final,
        Tally.Follows request.approvers (w.callsOn request.id w₁.calls.length) tally trail ∧
        w.history request.id = trail ∧ Action.Numbered trail ∧
        w.Stores final ∧ request.SameOrigin final ∧ final.version = trail.length + 1 ∧
        final.status = tally.status ∧ final.status = .ofActions final.approvers (w.history request.id) ∧
        final.decidedAt.isSome = final.status.isTerminal) := by
  obtain ⟨ledger, holds, -⟩ := reached.holds holds_start
  obtain ⟨first, holdsFirst, changes⟩ := holds.take opens.command
  obtain ⟨opened, rfl, free, inStep⟩ := opens.inStep holds changes holdsFirst
  have quiet : w₁.Quiet opened.request.id w₁.calls.length :=
    ⟨Nat.le_refl _, fun here _ about => before _ (List.mem_of_getElem? here) about⟩
  have serial : Serial opened.request w₁.calls.length w₁ first :=
    ⟨opened, [], none, .start, [], callsOn_length _ _, .refl _, .start, .idle inStep free⟩
  obtain ⟨last, holdsLast, serial⟩ := runs.serial holdsFirst up quiet serial apart
  have able : w.Able := runs.able (Runs.able (.next reached (.command step) rfl opens.command) able_start)
  refine ⟨able.exists_ended_on (fun _ _ => rfl) _ _, fun complete => ?_⟩
  obtain ⟨holding, tally, trail, origin, follows, inStep, -⟩ := serial.settled complete
  obtain ⟨history, numbered⟩ := holdsLast.history_of_inStep inStep
  rw [origin.id] at history
  refine ⟨tally, trail, holding.request, origin.approvers ▸ follows, history, numbered,
    holdsLast.stores_iff.2 ⟨holding, inStep.member, rfl⟩, origin, inStep.version, ?_, ?_, inStep.decidedAt⟩
  · rw [inStep.status, follows.eq_ofHistory]
    rfl
  · rw [history]
    exact inStep.status

end World

namespace Trial

/-- A role approves, and is refused when it approves once more. A role that the request does not ask for is refused.
Then the other role approves. -/
def oneByOne : List World.Event :=
  [acts "X" .approve] ++ goesOn 0 8 ++ [acts "X" .approve] ++ goesOn 1 5 ++ [acts "Z" .approve] ++ goesOn 2 5
    ++ [acts "Y" .approve] ++ goesOn 3 8

end Trial

namespace World

/-- Of four submissions on a request two are accepted, and the last one decides it. -/
theorem serial_follows_one_by_one :
    ∃ w₀ step w₁ request w tally trail, Runs Trial.environment anyOrder start w₀ ∧
      w₀.Opens Trial.environment step w₁ request ∧ request.approvers = ["X", "Y"] ∧
      Runs Trial.environment (serialOn request.id) w₁ w ∧
      Tally.Follows request.approvers (w.callsOn request.id w₁.calls.length) tally trail ∧
      (w.callsOn request.id w₁.calls.length).length = 4 ∧ trail.length = 2 ∧ tally.status = .approved := by
  obtain ⟨w₀, step, w₁, request, w, reached, opens, up, unasked, asked, runs, found⟩ :=
    exists_of_opensThen (serialOn Trial.requestId) ["X", "Y"]
      (fun request => request.id == Trial.requestId && request.approvers == ["X", "Y"]) Trial.oneByOne
      (fun w => ((w.callsOn Trial.requestId 0).all Call.isDone && (w.callsOn Trial.requestId 0).length == 4) &&
        (w.state.store.tickets.all fun document =>
          (Fields.getD document "ticket_id").text? != some Trial.requestId) &&
        ((w.trail Trial.requestId).length == 2 && !w.storesAny fun request => request.status != .approved))
      (show (start.play Trial.environment anyOrder (Trial.opening ["X", "Y"]).dropLast).any _ = true by decide +kernel)
  obtain ⟨named, roles⟩ := Bool.and_eq_true_iff.1 asked
  have named : request.id = Trial.requestId := beq_iff_eq.1 named
  rw [← named] at runs found
  obtain ⟨ended, found⟩ := Bool.and_eq_true_iff.1 found
  obtain ⟨ended, unticketed⟩ := Bool.and_eq_true_iff.1 ended
  obtain ⟨complete, four⟩ := Bool.and_eq_true_iff.1 ended
  obtain ⟨two, approved⟩ := Bool.and_eq_true_iff.1 found
  have none : w₁.calls.length = 0 := by rw [unasked, List.length_nil]
  have apart : ∀ status, ¬ w.TicketIs request.id status := by
    rintro status ⟨document, member, same, -⟩
    have other := List.all_eq_true.1 unticketed document member
    rw [Fields.getD, same] at other
    simp [Value.text?] at other
  obtain ⟨-, settled⟩ := serial_follows reached opens up (fun call member => by rw [unasked] at member; cases member)
    runs apart
  obtain ⟨tally, trail, final, follows, history, -, stored, -, -, status, -, -⟩ :=
    settled fun call member => List.all_eq_true.1 complete call (none ▸ member)
  refine ⟨w₀, step, w₁, request, w, tally, trail, reached, opens, beq_iff_eq.1 roles, runs, follows, ?_, ?_, ?_⟩
  · rw [none]
    exact beq_iff_eq.1 four
  · obtain ⟨ledger, holds, -⟩ := ((Runs.next reached (.command step) rfl opens.command).trans
      runs.anyOrder).holds holds_start
    rw [← history, holds.history_eq, Ledger.length_history, ← holds.trail_eq]
    exact beq_iff_eq.1 two
  · rw [← status]
    by_contra other
    have found : w.storesAny (fun request => request.status != .approved) = true :=
      storesAny_of_stores stored (by simp [other])
    rw [found] at approved
    cases approved

end World

end Countersign
