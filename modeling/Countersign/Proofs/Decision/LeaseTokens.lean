/-
Module: Countersign.Proofs.Decision.LeaseTokens
Purpose: A status that is written under a token is written over what the token was told last.
Main exports: RequestStore.Operation, RequestStore.Interleaves, RequestStore.Operates,
  RequestStore.Operation.operates, RequestStore.HeldSince, RequestStore.Interleaves.knownTo,
  RequestStore.written_over_last_told
-/
import Countersign.Proofs.Decision.Fencing
import Countersign.Proofs.Ledger.Opening

namespace Countersign.RequestStore

open Service

/-!
Callers take the lease on a request, change its status and give the lease up, each under a token of its own, in any
order and at any time that the clock may show. When a status is written nobody looks at the end of the lease, so no
clock keeps a late caller from writing. What keeps it from writing is that the token in the document is another's by
then: as long as a token stands there, nobody took the lease after it, and nobody else changed the request.
-/

/-- What a caller may ask of the store about a request. -/
inductive Operation where
  /-- Take the lease for some seconds. -/
  | acquire (length : Double)
  /-- Read the request and the clock, and change the status. -/
  | commit (status : ApprovalStatus) (releasing : Bool)
  /-- Change the status where the request and the clock were read before, when others may have come in between. -/
  | write (clock : Int) (status : ApprovalStatus) (releasing : Bool)
  | release

/-- What happened when a caller asked: under which token, for what, and how it was answered. -/
structure Event where
  token : String
  operation : Operation
  answer : Except Failure (Option Request)

namespace Operation

/-- Do what is asked under a token about the request of an id, which is one for a ticket. -/
def run (id ticketId token : String) : Operation → Service (Option Request)
  | acquire length => claim? (.text id) (.text token) length
  | commit status releasing => commit? (.text id) (.text token) status releasing
  | write clock status releasing =>
      write? (.text id) (.text token) ticketId status (Moment.ofClock clock) releasing
  | release => do
      let _ ← RequestStore.release (.text id) (.text token)
      return none

/-- The status that is to be written, if one is. -/
def status? : Operation → Option ApprovalStatus
  | commit status _ => some status
  | write _ status _ => some status
  | _ => none

end Operation

namespace Event

/-- The request that a caller was told of. -/
def request? (event : Event) : Option Request := event.answer.toOption.join

/-- Whether somebody got the lease. -/
def takes (event : Event) : Bool :=
  match event.operation with
  | .acquire _ => event.request?.isSome
  | _ => false

/-- The request that a token was told of. -/
def told? (token : String) (event : Event) : Option Request :=
  if event.token = token then event.request? else none

end Event

/-- The request that a token was told of last. -/
def lastTold? (token : String) (events : List Event) : Option Request :=
  (events.filterMap (Event.told? token)).getLast?

/-- Operations on the request of an id, one after the other. In front of each of them anything may have happened to
the service but for the store: the clock shows any time, and the store may have come up or gone down. -/
inductive Interleaves (id ticketId : String) (s : ServiceState) : List Event → ServiceState → Prop where
  | start : Interleaves id ticketId s [] s
  | on {events : List Event} {event : Event} {before ready after : ServiceState}
      (earlier : Interleaves id ticketId s events before) (same : ready.store = before.store)
      (whole : Text.hasHalf event.token = false)
      (ran : exec (event.operation.run id ticketId event.token) ready = (event.answer, after)) :
      Interleaves id ticketId s (events ++ [event]) after

/-- What happens when somebody asks while the clock shows a time. -/
def ask (id ticketId : String) (told : List Event × ServiceState) (turn : Int × String × Operation) :
    List Event × ServiceState :=
  let (clock, token, operation) := turn
  let (answer, after) := exec (operation.run id ticketId token) { told.2 with clock }
  (told.1 ++ [⟨token, operation, answer⟩], after)

/-- Those who ask one after the other make operations that interleave. -/
theorem Interleaves.asked {id ticketId : String} {s : ServiceState} {turns : List (Int × String × Operation)}
    (whole : ∀ turn ∈ turns, Text.hasHalf turn.2.1 = false) {told : List Event × ServiceState}
    (earlier : Interleaves id ticketId s told.1 told.2) :
    Interleaves id ticketId s (turns.foldl (ask id ticketId) told).1 (turns.foldl (ask id ticketId) told).2 := by
  induction turns generalizing told with
  | nil => exact earlier
  | cons turn rest ih =>
      refine ih (fun later member => whole later (List.mem_cons_of_mem _ member)) ?_
      have same : ({ told.2 with clock := turn.1 } : ServiceState).store = told.2.store := rfl
      exact .on earlier same (whole turn List.mem_cons_self) rfl

/-! ### What an operation does -/

/-- What an operation on the request of an id may make of a ledger, and how it is answered. -/
inductive Operates (id : String) (ledger : Ledger) : Event → Ledger → Prop where
  | nothing {event : Event} (untold : event.request? = none) : Operates id ledger event ledger
  | leased {token : String} {length ends : Double} {holding : Holding} (member : holding ∈ ledger.requests)
      (same : holding.request.id = id) :
      Operates id ledger ⟨token, .acquire length, .ok (some holding.request)⟩ (ledger.lease id ⟨token, ends⟩)
  | written {token : String} {operation : Operation} {status : ApprovalStatus} {time : Moment} {releasing : Bool}
      {holding : Holding} (writes : operation.status? = some status) (member : holding ∈ ledger.requests)
      (same : holding.request.id = id) (held : holding.holder? = some token) :
      Operates id ledger ⟨token, operation, .ok (some (holding.request.moved status time))⟩
        (ledger.move id status time releasing)
  | freed {token : String} {holding : Holding} (member : holding ∈ ledger.requests)
      (same : holding.request.id = id) (held : holding.holder? = some token) :
      Operates id ledger ⟨token, .release, .ok none⟩ (ledger.free id)

variable {id ticketId token : String} {ledger after : Ledger} {s s' : ServiceState} {event : Event}
  {events : List Event} {operation : Operation} {status : ApprovalStatus} {request : Request}

/-- A ledger in which a request has a ticket. -/
def HasTicket (ledger : Ledger) (id ticketId : String) : Prop :=
  ∀ holding ∈ ledger.requests, holding.request.id = id → holding.request.ticketId = ticketId

theorem HasTicket.onRequest (ticketed : HasTicket ledger id ticketId) {other : String} {f : Holding → Holding}
    (kept : ∀ holding : Holding, (f holding).request.id = holding.request.id ∧
      (f holding).request.ticketId = holding.request.ticketId) :
    HasTicket (ledger.onRequest other f) id ticketId := by
  intro later found about
  obtain ⟨holding, member, rfl⟩ := Ledger.mem_onRequest.1 found
  by_cases here : holding.request.id = other
  · rw [if_pos here] at about ⊢
    exact (kept holding).2.trans (ticketed holding member ((kept holding).1.symm.trans about))
  · rw [if_neg here] at about ⊢
    exact ticketed holding member about

/-- No operation gives a request another ticket. -/
theorem Operates.hasTicket (operates : Operates id ledger event after) (ticketed : HasTicket ledger id ticketId) :
    HasTicket after id ticketId := by
  cases operates with
  | nothing untold => exact ticketed
  | _ => exact ticketed.onRequest fun _ => ⟨rfl, rfl⟩

/-- A store that is down answers nothing. -/
theorem Operation.exec_run_down (down : s.down = true) (operation : Operation) :
    exec (operation.run id ticketId token) s = (.error .storeDown, s) := by
  cases operation with
  | acquire length => exact exec_claim?_down down _ _ _
  | commit status releasing =>
      rw [run, commit?, exec_bind, exec_now]
      exact exec_bind_error (exec_get_down down _) _
  | write clock status releasing => exact exec_write?_down down _ _ _ _ _ _
  | release => exact exec_bind_error (exec_release_down down _ _) _

/-- A request is leased to whoever asks for the lease while it is free. -/
theorem exec_acquire (up : s.down = false) (shown : ledger.ShownBy s.store) (whole : Text.hasHalf token = false)
    (length : Double) : ∃ answer s' after,
      exec (claim? (.text id) (.text token) length) s = (answer, s') ∧ after.ShownBy s'.store ∧
        Operates id ledger ⟨token, .acquire length, answer⟩ after := by
  by_cases known : ∃ holding ∈ ledger.requests, holding.request.id = id ∧ holding.isFree (secondsAt s) = true
  · obtain ⟨holding, member, rfl, free⟩ := known
    obtain ⟨table, claimed, shows⟩ := exec_claim?_free up shown member free whole length
    exact ⟨_, _, _, claimed, shows, .leased member rfl⟩
  · have taken : ∀ holding ∈ ledger.requests, holding.request.id = id → holding.isFree (secondsAt s) = false :=
      fun holding member same => Bool.eq_false_iff.2 fun free => known ⟨holding, member, same, free⟩
    exact ⟨_, _, _, exec_claim?_taken id up shown taken _ length, shown, .nothing rfl⟩

/-- A status is written under the token that stands in the document, or not at all. -/
theorem exec_write (up : s.down = false) (shown : ledger.ShownBy s.store) (ticketed : HasTicket ledger id ticketId)
    (writes : operation.status? = some status) {time : Moment} (within : time.leavesCalendar = false)
    (releasing : Bool) : ∃ answer s' after,
      exec (write? (.text id) (.text token) ticketId status time releasing) s = (answer, s') ∧
        after.ShownBy s'.store ∧ Operates id ledger ⟨token, operation, answer⟩ after := by
  by_cases known : ∃ holding ∈ ledger.requests, holding.request.id = id ∧ holding.holder? = some token
  · obtain ⟨holding, member, rfl, held⟩ := known
    rw [← ticketed holding member rfl]
    rcases exec_write?_held up shown member held status within releasing with
      ⟨-, table, journal, wrote, shows⟩ | ⟨-, failed⟩
    · exact ⟨_, _, _, wrote, shows, .written writes member rfl held⟩
    · exact ⟨_, _, _, failed, shown, .nothing rfl⟩
  · have other : ∀ holding ∈ ledger.requests, holding.request.id = id → holding.holder? ≠ some token :=
      fun holding member same held => known ⟨holding, member, same, held⟩
    exact ⟨_, _, _, exec_write?_other up shown other _ _ _ _, shown, .nothing rfl⟩

/-- So it is where the request is read first. -/
theorem exec_commit (up : s.down = false) (shown : ledger.ShownBy s.store) (ticketed : HasTicket ledger id ticketId)
    (status : ApprovalStatus) (releasing : Bool) : ∃ answer s' after,
      exec (commit? (.text id) (.text token) status releasing) s = (answer, s') ∧ after.ShownBy s'.store ∧
        Operates id ledger ⟨token, .commit status releasing, answer⟩ after := by
  by_cases known : ∃ holding ∈ ledger.requests, holding.request.id = id
  · obtain ⟨holding, member, rfl⟩ := known
    have read : exec (commit? (.text holding.request.id) (.text token) status releasing) s =
        exec (write? (.text holding.request.id) (.text token) ticketId status (Moment.ofClock s.clock) releasing)
          s := by
      rw [commit?, exec_bind, exec_now]
      exact (exec_bind_ok (exec_get_known up shown member) _).trans (by rw [ticketed holding member rfl])
    rw [read]
    exact exec_write up shown ticketed rfl (Moment.leavesCalendar_ofClock _) releasing
  · have unknown : ∀ holding ∈ ledger.requests, holding.request.id ≠ id :=
      fun holding member same => known ⟨holding, member, same⟩
    have failed : exec (commit? (.text id) (.text token) status releasing) s =
        (.error (.refused (.requestMissing (.text id))), s) := by
      rw [commit?, exec_bind, exec_now]
      exact exec_bind_error (exec_get_unknown up shown unknown) _
    exact ⟨_, _, _, failed, shown, .nothing rfl⟩

/-- A lease is given up under the token that stands in the document, or not at all. -/
theorem exec_free (up : s.down = false) (shown : ledger.ShownBy s.store) : ∃ s' after,
    exec (Operation.release.run id ticketId token) s = (.ok none, s') ∧ after.ShownBy s'.store ∧
      Operates id ledger ⟨token, .release, .ok none⟩ after := by
  by_cases known : ∃ holding ∈ ledger.requests, holding.request.id = id ∧ holding.holder? = some token
  · obtain ⟨holding, member, rfl, held⟩ := known
    obtain ⟨told, table, released, shows⟩ := exec_release_held up shown member held
    exact ⟨_, _, exec_bind_ok released _, shows, .freed member rfl held⟩
  · have other : ∀ holding ∈ ledger.requests, holding.request.id = id → holding.holder? ≠ some token :=
      fun holding member same held => known ⟨holding, member, same, held⟩
    exact ⟨_, _, exec_bind_ok (exec_release_other up shown other) _, shown, .nothing rfl⟩

/-- Every operation does what operations do. -/
theorem Operation.operates (shown : ledger.ShownBy s.store) (ticketed : HasTicket ledger id ticketId)
    (whole : ∀ length, operation = .acquire length → Text.hasHalf token = false)
    {answer : Except Failure (Option Request)} (ran : exec (operation.run id ticketId token) s = (answer, s')) :
    ∃ after, after.ShownBy s'.store ∧ Operates id ledger ⟨token, operation, answer⟩ after := by
  rcases Bool.eq_false_or_eq_true s.down with down | up
  · obtain ⟨rfl, rfl⟩ := Prod.mk.inj ((exec_run_down down operation).symm.trans ran)
    exact ⟨ledger, shown, .nothing rfl⟩
  have done {answered : Except Failure (Option Request)} {left : ServiceState}
      (did : exec (operation.run id ticketId token) s = (answered, left)) : answered = answer ∧ left = s' :=
    Prod.mk.inj (did.symm.trans ran)
  cases operation with
  | acquire length =>
      obtain ⟨answered, left, after, did, shows, operates⟩ := exec_acquire up shown (whole length rfl) length
      obtain ⟨rfl, rfl⟩ := done did
      exact ⟨after, shows, operates⟩
  | commit status releasing =>
      obtain ⟨answered, left, after, did, shows, operates⟩ := exec_commit up shown ticketed status releasing
      obtain ⟨rfl, rfl⟩ := done did
      exact ⟨after, shows, operates⟩
  | write clock status releasing =>
      obtain ⟨answered, left, after, did, shows, operates⟩ := exec_write up shown ticketed
        (show (Operation.write clock status releasing).status? = _ from rfl)
        (Moment.leavesCalendar_ofClock clock) releasing
      obtain ⟨rfl, rfl⟩ := done did
      exact ⟨after, shows, operates⟩
  | release =>
      obtain ⟨left, after, did, shows, operates⟩ := exec_free up shown
      obtain ⟨rfl, rfl⟩ := done did
      exact ⟨after, shows, operates⟩

/-! ### What a token was told -/

/-- A token got the lease, nobody has got it since, and a request is what the token was told last. -/
def HeldSince (token : String) (events : List Event) (request : Request) : Prop :=
  ∃ earlier length acquired between,
    events = earlier ++ ⟨token, .acquire length, .ok (some acquired)⟩ :: between ∧
      (∀ event ∈ between, event.takes = false) ∧
      lastTold? token (⟨token, .acquire length, .ok (some acquired)⟩ :: between) = some request

theorem lastTold?_concat (token : String) (events : List Event) (event : Event) :
    lastTold? token (events ++ [event]) = (event.told? token).or (lastTold? token events) := by
  cases told : event.told? token <;> simp [lastTold?, told]

/-- A token that gets the lease is told of the request. -/
theorem HeldSince.of_acquire (events : List Event) (length : Double) (request : Request) :
    HeldSince token (events ++ [⟨token, .acquire length, .ok (some request)⟩]) request := by
  refine ⟨events, length, request, [], rfl, by simp, ?_⟩
  simp [lastTold?, Event.told?, Event.request?, Except.toOption]

/-- Where nobody gets the lease, a token holds it on, and knows what it is told. -/
theorem HeldSince.on (held : HeldSince token events request) (takesNot : event.takes = false) {next : Request}
    (told : (event.told? token).or (some request) = some next) : HeldSince token (events ++ [event]) next := by
  obtain ⟨earlier, length, acquired, between, rfl, none, last⟩ := held
  refine ⟨earlier, length, acquired, between ++ [event], by simp, ?_, ?_⟩
  · intro other member
    rcases List.mem_append.1 member with before | now
    · exact none other before
    · exact List.mem_singleton.1 now ▸ takesNot
  · rw [← List.cons_append, lastTold?_concat, last, told]

/-- What a token was told where it stands in the document of the request. -/
def KnownTo (ledger : Ledger) (id token : String) (events : List Event) : Prop :=
  ∀ holding ∈ ledger.requests, holding.request.id = id → holding.holder? = some token →
    HeldSince token events holding.request

/-- A token that stands in the document of the request knows it after every operation. -/
theorem Operates.knownTo (operates : Operates id ledger event after) (sound : ledger.Sound)
    (known : KnownTo ledger id token events) : KnownTo after id token (events ++ [event]) := by
  intro later found about held
  cases operates with
  | nothing untold =>
      refine (known later found about held).on ?_ ?_
      · cases asked : event.operation <;> simp [Event.takes, asked, untold]
      · simp [Event.told?, untold]
  | @leased other length ends holding member same =>
      rw [Ledger.eq_of_mem_onRequest sound member same rfl found about] at held ⊢
      obtain rfl : other = token := Option.some.inj held
      exact .of_acquire events length holding.request
  | @written other operation status time releasing holding writes member same holds =>
      rw [Ledger.eq_of_mem_onRequest sound member same rfl found about] at held ⊢
      have still : holding.holder? = some token := by
        cases releasing with
        | true => cases held
        | false => exact held
      obtain rfl : other = token := Option.some.inj (holds.symm.trans still)
      refine (known holding member same still).on ?_ ?_
      · cases operation <;> first | rfl | cases writes
      · simp [Event.told?, Event.request?, Except.toOption, Holding.moved]
  | freed member same holds =>
      rw [Ledger.eq_of_mem_onRequest sound member same rfl found about] at held
      cases held

/-- So does a token that held no lease in the beginning, after any operations. -/
theorem Interleaves.knownTo (ran : Interleaves id ticketId s events s') (shown : ledger.ShownBy s.store)
    (ticketed : HasTicket ledger id ticketId) (fresh : ¬ ledger.Held id token) :
    ∃ after : Ledger, after.ShownBy s'.store ∧ HasTicket after id ticketId ∧
      KnownTo after id token events := by
  induction ran with
  | start =>
      exact ⟨ledger, shown, ticketed, fun holding member same held => absurd ⟨holding, member, same, held⟩ fresh⟩
  | @on events event before ready last earlier same whole ran ih =>
      obtain ⟨ledger, shown, ticketed, known⟩ := ih
      obtain ⟨after, shows, operates⟩ := Operation.operates (same ▸ shown) ticketed (fun _ _ => whole) ran
      exact ⟨after, shows, operates.hasTicket ticketed, operates.knownTo shown.sound known⟩

/-- In whatever order callers with tokens take the lease on a request, change its status and give the lease up, and
whatever the clock shows them: when a status is written under a token that held no lease in the beginning, the token
has got the lease, nobody got it after that, and the request that the store kept until then is the one that the token
was told of last. -/
theorem written_over_last_told {before ready : ServiceState} {committed : Request}
    (shown : ledger.ShownBy s.store) (ticketed : HasTicket ledger id ticketId) (fresh : ¬ ledger.Held id token)
    (ran : Interleaves id ticketId s events before) (same : ready.store = before.store)
    (writes : operation.status? = some status)
    (wrote : exec (operation.run id ticketId token) ready = (.ok (some committed), s')) :
    ∃ earlier length acquired between stored,
      events = earlier ++ ⟨token, .acquire length, .ok (some acquired)⟩ :: between ∧
        (∀ event ∈ between, event.takes = false) ∧
        exec (get (.text id)) ready = (.ok stored, ready) ∧
        lastTold? token (⟨token, .acquire length, .ok (some acquired)⟩ :: between) = some stored ∧
        committed.status = status ∧ committed.version = stored.version + 1 := by
  obtain ⟨reached, shows, stillTicketed, known⟩ := ran.knownTo shown ticketed fresh
  rw [← same] at shows
  have up : ready.down = false := by
    by_contra down
    have failed : exec (operation.run id ticketId token) ready = (.error .storeDown, ready) :=
      Operation.exec_run_down (Bool.eq_true_of_not_eq_false down) operation
    cases (Prod.mk.inj (failed.symm.trans wrote)).1
  have takesNot : ∀ length, operation = .acquire length → Text.hasHalf token = false := by
    rintro length rfl
    cases writes
  obtain ⟨after, -, operates⟩ := Operation.operates shows stillTicketed takesNot wrote
  cases operates with
  | nothing untold => cases untold
  | leased member same => cases writes
  | @written _ _ wanted time releasing holding writesThis member about held =>
      obtain rfl : status = wanted := Option.some.inj (writes.symm.trans writesThis)
      obtain ⟨earlier, length, acquired, between, split, none, last⟩ := known holding member about held
      refine ⟨earlier, length, acquired, between, holding.request, split, none, ?_, last, rfl, rfl⟩
      rw [← about]
      exact exec_get_known up shows member

end Countersign.RequestStore

namespace Countersign.Trial

open Service RequestStore

/-- A request that one role has to approve. -/
def waiting : Request where
  id := requestId
  ticketId := "T"
  approvers := ["X"]
  ruleTriggered := "R"
  roleToRules := []
  status := .pending
  version := 1
  createdAt := Moment.ofClock Session.beginning
  updatedAt := Moment.ofClock Session.beginning
  decidedAt := none

def waitingState : ServiceState :=
  { store := { requests := [Document.kept waiting.document] }, clock := Session.beginning }

theorem waitingState_shows :
    ∃ kept : Request, waiting.KeptAs kept ∧ ({ requests := [⟨kept, none⟩] } : Ledger).ShownBy waitingState.store := by
  obtain ⟨kept, same, here⟩ := waiting.kept_shownBy (by decide) rfl rfl
  exact ⟨kept, same, .cons here .nil, .nil, .nil, by constructor <;> simp⟩

/-- A lease is let lapse and taken by another caller. The first caller comes too late with its decision, and the
clock is set back. -/
def takeover : List (Int × String × Operation) :=
  [(Session.beginning, "LOCK-1", .acquire environment.terms.length),
    (Session.beginning + 31 * Session.tick, "LOCK-2", .acquire environment.terms.length),
    (Session.beginning + 32 * Session.tick, "LOCK-1", .write Session.beginning .rejected true),
    (Session.beginning, "LOCK-1", .acquire environment.terms.length)]

def takenOver : List Event × ServiceState := takeover.foldl (ask requestId "T") ([], waitingState)

/-- Whether somebody is told of a request. -/
def tellsRequest : Except Failure (Option Request) × ServiceState → Bool
  | (.ok (some _), _) => true
  | _ => false

theorem exists_of_tellsRequest {told : Except Failure (Option Request) × ServiceState}
    (tells : tellsRequest told = true) : ∃ request s', told = (.ok (some request), s') := by
  unfold tellsRequest at tells
  split at tells
  · exact ⟨_, _, rfl⟩
  · cases tells

end Countersign.Trial

namespace Countersign.RequestStore

open Service

/-- The caller that took over the lease decides what it was told of when it took it. -/
theorem written_over_last_told_of_takeover :
    ∃ committed s' earlier length acquired between stored,
      exec (Operation.run Trial.requestId "T" "LOCK-2" (.commit .approved true)) Trial.takenOver.2 =
        (.ok (some committed), s') ∧
      Trial.takenOver.1 = earlier ++ ⟨"LOCK-2", .acquire length, .ok (some acquired)⟩ :: between ∧
      (∀ event ∈ between, event.takes = false) ∧
      exec (get (.text Trial.requestId)) Trial.takenOver.2 = (.ok stored, Trial.takenOver.2) ∧
      lastTold? "LOCK-2" (⟨"LOCK-2", .acquire length, .ok (some acquired)⟩ :: between) = some stored ∧
      committed.status = .approved ∧ committed.version = stored.version + 1 := by
  obtain ⟨kept, same, shown⟩ := Trial.waitingState_shows
  have ticketed : HasTicket { requests := [⟨kept, none⟩] } Trial.requestId "T" := by
    intro holding member _
    obtain rfl := List.mem_singleton.1 member
    exact same.ticketId
  have fresh : ¬ ({ requests := [⟨kept, none⟩] } : Ledger).Held Trial.requestId "LOCK-2" := by
    rintro ⟨holding, member, -, held⟩
    obtain rfl := List.mem_singleton.1 member
    cases held
  have whole : ∀ turn ∈ Trial.takeover, Text.hasHalf turn.2.1 = false := by
    simp only [Trial.takeover, List.forall_mem_cons]
    decide
  have ran : Interleaves Trial.requestId "T" Trial.waitingState Trial.takenOver.1 Trial.takenOver.2 :=
    .asked whole .start
  have tells : Trial.tellsRequest
      (exec (Operation.run Trial.requestId "T" "LOCK-2" (.commit .approved true)) Trial.takenOver.2) = true := by
    decide +kernel
  obtain ⟨committed, s', wrote⟩ := Trial.exists_of_tellsRequest tells
  obtain ⟨earlier, length, acquired, between, stored, found⟩ :=
    written_over_last_told shown ticketed fresh ran rfl rfl wrote
  exact ⟨committed, s', earlier, length, acquired, between, stored, wrote, found⟩

end Countersign.RequestStore
