/-
Module: Countersign.Proofs.Decision.TicketAgreement
Purpose: In nested runs tickets and requests agree whenever every submission has come to a point or to its end.
Main exports: Phase.owes?, Ledger.Owed, Phase.Settles, Phase.Moves.settles, World.Settles, World.StandsAs,
  World.tickets_agree
-/
import Countersign.Proofs.Decision.Standing
import Countersign.Proofs.World.Invariant

namespace Countersign

open Service

/-!
A submission that wrote a decision owes it to the ticket until it has told it. It comes to no point before that,
so nobody else goes on in a nested run, and the store stays up. Where no submission owes anything, tickets and
requests agree; where one does, they will when the ticket is told.
-/

namespace Phase

/-- The request whose ticket is still to be told of a decision. -/
def owes? : Phase → Option Request
  | spreading request _ => some request
  | releasing (.ok result) => if result.statusChanged then some result.request else none
  | announcing result => if result.statusChanged then some result.request else none
  | _ => none

@[simp] theorem owes?_onFailure (phase : Phase) (failure : Failure) :
    (phase.onFailure failure).owes? = none := by
  cases phase <;> rfl

@[simp] theorem owes?_cutOff (phase : Phase) : phase.cutOff.owes? = none := by
  cases phase <;> rfl

/-- Giving up the lease leaves owed what was owed. -/
@[simp] theorem owes?_afterRelease (outcome : Except Failure ActionResult) :
    (afterRelease outcome).owes? = (releasing outcome).owes? := by
  cases outcome <;> rfl

end Phase

/-- A submission that has come to a point or to its end owes nothing. -/
theorem Call.owes?_of_yields {call : Call} (yields : call.yields = true) : call.phase.owes? = none := by
  obtain ⟨submission, phase⟩ := call
  cases phase <;> first | rfl | cases yields

namespace Ledger

/-- A decision that the ticket of a request is still to be told of. -/
structure Owed (ledger : Ledger) (request : Request) : Prop where
  told : (ledger.tell request.ticketId request.status.ticketStatus).Agreed
  waits : ∀ mark ∈ ledger.tickets, mark.id = request.ticketId → mark.status = .pending

variable {ledger after : Ledger} {holding : Holding} {request : Request}

/-- What is owed does not depend on leases. -/
theorem Owed.congr (owed : ledger.Owed request) (standings : after.standings = ledger.standings)
    (tickets : after.tickets = ledger.tickets) : after.Owed request := by
  constructor
  · refine owed.told.congr standings ?_
    rw [tell, tell, tickets]
  · rw [tickets]
    exact owed.waits

/-- A decision that was just written is owed to the ticket. -/
theorem Agreed.owes (agreed : ledger.Agreed) (sound : ledger.Sound) (member : holding ∈ ledger.requests)
    (waits : holding.request.status = .pending) {status : ApprovalStatus}
    (terminal : status.isTerminal = true) (time : Moment) (releasing : Bool) :
    (ledger.move holding.request.id status time releasing).Owed (holding.request.moved status time) :=
  ⟨agreed.decide sound member waits terminal time releasing,
    fun _ there same => agreed.status_eq_pending member waits there same⟩

/-- A change of leases alone changes no standing. -/
theorem standings_onRequest {id : String} {f : Holding → Holding}
    (kept : ∀ holding : Holding, (f holding).request = holding.request) :
    (ledger.onRequest id f).standings = ledger.standings := by
  simp only [standings, onRequest, List.map_map]
  apply List.map_congr_left
  intro holding _
  simp only [Function.comp_apply]
  split
  · rw [kept]
  · rfl

end Ledger

namespace Phase

variable {call : Submission} {id : String} {down : Bool} {ledger after : Ledger} {phase next : Phase}

/-- Tickets and requests agree, or will when a submission has told the ticket. -/
def Settles (ledger : Ledger) (down : Bool) (phase : Phase) : Prop :=
  match phase.owes? with
  | none => ledger.Agreed
  | some request => ledger.Owed request ∧ down = false

theorem settles_none (none : phase.owes? = none) : phase.Settles ledger down ↔ ledger.Agreed := by
  rw [Settles, none]

theorem settles_some {request : Request} (some : phase.owes? = some request) :
    phase.Settles ledger down ↔ ledger.Owed request ∧ down = false := by
  rw [Settles, some]

/-- A change of leases alone leaves settled what is settled. -/
theorem Settles.congr (settles : phase.Settles ledger down) (same : next.owes? = phase.owes?)
    (standings : after.standings = ledger.standings) (tickets : after.tickets = ledger.tickets) :
    next.Settles after down := by
  cases owed : phase.owes? with
  | none =>
      rw [settles_none owed] at settles
      rw [settles_none (same.trans owed)]
      exact settles.congr standings tickets
  | some request =>
      rw [settles_some owed] at settles
      rw [settles_some (same.trans owed)]
      exact ⟨settles.1.congr standings tickets, settles.2⟩

/-- A submission that fails owes nothing, since the store is up while it does. -/
theorem owes?_of_canFail (settles : phase.Settles ledger down) (can : phase.canFail down = true) :
    phase.owes? = none := by
  cases down with
  | false => cases phase <;> first | rfl | cases can
  | true =>
      cases owed : phase.owes? with
      | none => rfl
      | some request => exact absurd ((settles_some owed).1 settles).2 (by decide)

/-- A submission that wrote a decision owes it to the ticket as long as it gives up the lease. -/
theorem settles_releasing {request : Request} {action : Action} {status : ApprovalStatus} {time : Moment}
    (pending : request.status = .pending) (terminal : status.isTerminal = true)
    (owed : ledger.Owed (request.moved status time)) :
    (releasing (.ok ⟨request.moved status time, action, request.status⟩)).Settles ledger false := by
  have moved : status ≠ .pending := by
    rintro rfl
    cases terminal
  have owes : (releasing (.ok ⟨request.moved status time, action, request.status⟩)).owes? =
      some (request.moved status time) := by
    simp [owes?, ActionResult.statusChanged, Request.moved, pending, moved]
  exact (settles_some owes).2 ⟨owed, rfl⟩

/-- A step of a submission alone keeps tickets and requests in agreement, or tells the ticket what it owes. -/
theorem Moves.settles (sound : ledger.Sound) (knows : phase.Knows ledger id call.token)
    (moves : Moves call id down ledger phase after next) (settles : phase.Settles ledger down) :
    next.Settles after down := by
  cases moves with
  | failed failure fails =>
      exact settles.congr (by rw [owes?_onFailure, owes?_of_canFail settles fails.canFail]) rfl rfl
  | leased holding member same time free =>
      exact settles.congr rfl (Ledger.standings_onRequest fun _ => rfl) rfl
  | busy taken => exact settles
  | probed => exact settles
  | waited => exact settles
  | informed => exact settles
  | agreed inLine => exact settles
  | lagging pending drifted holding member same clock => exact settles
  | @restored request history ticketId time up holding member same held =>
      obtain ⟨carries, -, pending, drifted, -⟩ := knows
      have known := carries.fenced holding member (same.trans carries.about) held
      have agreed : ledger.Agreed := settles
      rw [← same]
      refine ⟨agreed.owes sound member (known ▸ pending) ?_ time false, up⟩
      cases decided : Submission.derived request history with
      | pending => exact absurd decided drifted
      | approved => rfl
      | rejected => rfl
  | spread up =>
      obtain ⟨owed, -⟩ := settles
      exact owed.told
  | recorded action fine recorded => exact settles.congr rfl rfl rfl
  | looked holding member same clock => exact settles
  | @committed request history action ticketId time up holding member same held =>
      obtain ⟨carries, -, pending, -⟩ := knows
      obtain rfl := carries.fenced holding member same held
      have agreed : ledger.Agreed := settles
      subst same up
      cases decided : Submission.derived holding.request (history ++ [action]) with
      | pending =>
          have quiet : ApprovalStatus.pending = holding.request.status := pending.symm
          refine (settles_none ?_).2 (agreed.wait sound member pending time true)
          simp [owes?, ActionResult.statusChanged, Request.moved, quiet]
      | approved => exact settles_releasing pending rfl (agreed.owes sound member pending rfl time true)
      | rejected => exact settles_releasing pending rfl (agreed.owes sound member pending rfl time true)
  | released up holding member same held =>
      exact settles.congr (owes?_afterRelease _) (Ledger.standings_onRequest fun _ => rfl) rfl
  | lost up other => exact settles.congr (owes?_afterRelease _) rfl rfl
  | @announced result changed up =>
      have owes : (announcing result).owes? = some result.request := by rw [owes?, if_pos changed]
      obtain ⟨owed, -⟩ := (settles_some owes).1 settles
      exact owed.told
  | @quiet result unchanged =>
      have nothing : (announcing result).owes? = none := by simp [owes?, unchanged]
      exact (settles_none nothing).1 settles
  | ended => exact settles

end Phase

namespace Ledger

variable {ledger after : Ledger} {id : String} {mark : TicketMark}

/-- Telling tickets leaves alone those that stand as they are told. -/
theorem mem_tell_of_mem {status : TicketStatus} (member : mark ∈ ledger.tickets)
    (kept : mark.id = id → mark.status = status) : mark ∈ (ledger.tell id status).tickets := by
  refine mem_tell.2 ⟨mark, member, ?_⟩
  split
  · next same => rw [← kept same]
  · rfl

/-- No command takes back that a ticket is approved. -/
theorem Commanded.approved_stays (commanded : ledger.Commanded after) (sound : ledger.Sound)
    (member : mark ∈ ledger.tickets) (approved : mark.status = .approved) : mark ∈ after.tickets := by
  cases commanded with
  | nothing => exact member
  | registered other draft fresh => exact List.mem_append_left _ member
  | opened request admits =>
      obtain ⟨other, there, same, open_⟩ := admits.ticket
      apply mem_tell_of_mem member
      intro about
      obtain rfl := sound.eq_of_ticketId member there (about.trans same.symm)
      exact absurd approved open_
  | approved other there submittable => exact mem_tell_of_mem member fun _ => approved

end Ledger

/-- Nor does a submission. -/
theorem Phase.Moves.approved_stays {call : Submission} {id : String} {down : Bool}
    {ledger after : Ledger} {phase next : Phase} {mark : TicketMark}
    (moves : Moves call id down ledger phase after next) (settles : phase.Settles ledger down)
    (member : mark ∈ ledger.tickets) (approved : mark.status = .approved) : mark ∈ after.tickets := by
  have kept {request : Request} {status : TicketStatus} (owed : ledger.Owed request) :
      mark ∈ (ledger.tell request.ticketId status).tickets := by
    apply Ledger.mem_tell_of_mem member
    intro about
    rw [owed.waits mark member about] at approved
    cases approved
  cases moves with
  | spread up => exact kept settles.1
  | @announced result changed up =>
      have owes : (announcing result).owes? = some result.request := by rw [owes?, if_pos changed]
      exact kept ((settles_some owes).1 settles).1
  | _ => exact member

/-- Statuses of tickets are known by their names. -/
theorem TicketStatus.name_injective : Function.Injective TicketStatus.name := by
  intro one other same
  cases one <;> cases other <;> first | rfl | exact absurd same (by decide)

namespace World

variable {environment : Session.Environment} {w w' : World} {ledger after : Ledger} {event : Event}

/-- A world in which tickets and requests agree, but for what submissions owe to tickets. -/
structure Settles (w : World) (ledger : Ledger) : Prop where
  agreed : (∀ {index : Nat} {call : Call}, w.calls[index]? = some call → call.phase.owes? = none) →
    ledger.Agreed
  owed : ∀ {index : Nat} {call : Call} {request : Request}, w.calls[index]? = some call →
    call.phase.owes? = some request → ledger.Owed request ∧ w.state.down = false

namespace Settles

/-- Where no submission owes anything, the world settles as soon as tickets and requests agree. -/
theorem of_agreed (agreed : ledger.Agreed)
    (nothing : ∀ {index : Nat} {call : Call}, w.calls[index]? = some call → call.phase.owes? = none) :
    w.Settles ledger := by
  refine ⟨fun _ => agreed, fun here owes => ?_⟩
  rw [nothing here] at owes
  cases owes

theorem start : World.start.Settles {} := by
  refine .of_agreed ⟨?_, ?_⟩ fun here => ?_
  · intro mark member
    cases member
  · intro standing within
    cases within
  · cases here

/-- A submission that goes on while the others owe nothing settles as the world does. -/
theorem phase (settles : w.Settles ledger) {index : Nat} {call : Call}
    (here : w.calls[index]? = some call)
    (others : ∀ {other : Nat} {another : Call}, w.calls[other]? = some another → other ≠ index →
      another.phase.owes? = none) : call.phase.Settles ledger w.state.down := by
  cases owed : call.phase.owes? with
  | some request => exact (Phase.settles_some owed).2 (settles.owed here owed)
  | none =>
      refine (Phase.settles_none owed).2 (settles.agreed fun {other another} there => ?_)
      by_cases same : other = index
      · subst same
        obtain rfl := Option.some.inj (there.symm.trans here)
        exact owed
      · exact others there same

/-- The world settles as the submission that went on does. -/
theorem replaced {s : ServiceState} {index : Nat} {call : Call} {next : Phase}
    (here : w.calls[index]? = some call)
    (others : ∀ {other : Nat} {another : Call}, w.calls[other]? = some another → other ≠ index →
      another.phase.owes? = none) (settles : next.Settles after s.down) :
    Settles ⟨s, w.calls.set index { call with phase := next }⟩ after := by
  constructor
  · intro nothing
    exact (Phase.settles_none (nothing ((getElem?_set_iff here).2 (Or.inl ⟨rfl, rfl⟩)))).1 settles
  · intro other another request there owes
    rcases (getElem?_set_iff here).1 there with ⟨rfl, rfl⟩ | ⟨different, before⟩
    · exact (Phase.settles_some owes).1 settles
    · rw [others before different] at owes
      cases owes

end Settles

namespace Changes

/-- Every event in turn keeps tickets and requests in agreement, but for what submissions owe. -/
theorem settles (changes : w.Changes ledger event w' after) (sound : ledger.Sound)
    (turn : w.inTurn event = true) (before : w.Settles ledger) : w'.Settles after := by
  -- In turn, all submissions yield when a command comes, and all but one when that one goes on. Who yields owes
  -- nothing.
  cases changes with
  | commanded commanded down =>
      have nothing {index : Nat} {call : Call} (here : w.calls[index]? = some call) :
          call.phase.owes? = none := Call.owes?_of_yields (yields_of_inTurn turn rfl here)
      exact .of_agreed ((before.agreed nothing).commanded commanded) nothing
  | shifted =>
      have nothing {index : Nat} {call : Call} (here : w.calls[index]? = some call) :
          call.phase.owes? = none := Call.owes?_of_yields (yields_of_inTurn turn rfl here)
      exact .of_agreed (before.agreed nothing) nothing
  | submitted on =>
      have nothing {index : Nat} {call : Call} (here : w.calls[index]? = some call) :
          call.phase.owes? = none := Call.owes?_of_yields (yields_of_inTurn turn rfl here)
      refine .of_agreed (before.agreed nothing) fun there => ?_
      rcases getElem?_concat_iff.1 there with old | ⟨-, rfl⟩
      · exact nothing old
      · rfl
  | advanced here on knows moves down =>
      have others {other : Nat} {another : Call} (there : w.calls[other]? = some another)
          (different : other ≠ _) : another.phase.owes? = none :=
        Call.owes?_of_yields (others_of_inTurn turn rfl there different).1
      refine .replaced here others ?_
      rw [down]
      exact moves.settles sound knows (before.phase here others)
  | cut here point =>
      have others {other : Nat} {another : Call} (there : w.calls[other]? = some another)
          (different : other ≠ _) : another.phase.owes? = none :=
        Call.owes?_of_yields (others_of_inTurn turn rfl there different).1
      have nothing := Call.owes?_of_yields (Call.yields_of_point point)
      refine .replaced here others ((before.phase here others).congr ?_ rfl rfl)
      rw [Phase.owes?_cutOff, nothing]

/-- In a nested run a ticket that is approved stays approved. -/
theorem approved_stays (changes : w.Changes ledger event w' after) (sound : ledger.Sound)
    (turn : w.inTurn event = true) (before : w.Settles ledger) {mark : TicketMark}
    (member : mark ∈ ledger.tickets) (approved : mark.status = .approved) : mark ∈ after.tickets := by
  cases changes with
  | commanded commanded down => exact commanded.approved_stays sound member approved
  | shifted => exact member
  | submitted on => exact member
  | advanced here on knows moves down =>
      refine moves.approved_stays (before.phase here fun there different => ?_) member approved
      exact Call.owes?_of_yields (others_of_inTurn turn rfl there different).1
  | cut here point => exact member

end Changes

/-! ### What is seen of tickets -/

/-- The statuses of the requests of a ticket, in the order in which the store keeps them. -/
def statusesOf (w : World) (ticketId : String) : List ApprovalStatus :=
  w.state.store.requests.filterMap fun document =>
    match Request.check document with
    | .accepted request => if request.ticketId = ticketId then some request.status else none
    | .refused _ => none

/-- A ticket that the store keeps, and where it stands. -/
def TicketIs (w : World) (id : String) (status : TicketStatus) : Prop :=
  ∃ document ∈ w.state.store.tickets, Fields.get? document "ticket_id" = some (.text id) ∧
    Fields.get? document "status" = some (.text status.name)

/-- The tickets that the store keeps are those of the ledger that it shows. -/
theorem ticketIs_iff_of_shownBy (shown : ledger.ShownBy w.state.store) {id : String} {status : TicketStatus} :
    w.TicketIs id status ↔ ⟨id, status⟩ ∈ ledger.tickets := by
  constructor
  · rintro ⟨document, member, named, stands⟩
    obtain ⟨mark, within, here⟩ := exists_of_mem_documents shown.tickets member
    obtain rfl := Value.text.inj (Option.some.inj (here.id.symm.trans named))
    obtain rfl := TicketStatus.name_injective
      (Value.text.inj (Option.some.inj (here.status.symm.trans stands)))
    exact within
  · intro within
    obtain ⟨-, -, before, document, behind, -, documents, -, here, -⟩ := split_of_mem shown.tickets within
    refine ⟨document, ?_, here.id, here.status⟩
    rw [documents]
    simp

namespace Holds

theorem statusesOf_eq (holds : w.Holds ledger) (ticketId : String) :
    w.statusesOf ticketId = ledger.statusesOf ticketId := by
  have related := holds.shown.requests
  rw [World.statusesOf, Ledger.statusesOf, Ledger.standings]
  generalize ledger.requests = entries, w.state.store.requests = documents at related ⊢
  induction related with
  | nil => rfl
  | @cons holding document _ _ here _ ih =>
      by_cases about : holding.request.ticketId = ticketId <;> simp [here.reads, about, ih]

theorem ticketIs_iff (holds : w.Holds ledger) {id : String} {status : TicketStatus} :
    w.TicketIs id status ↔ ⟨id, status⟩ ∈ ledger.tickets := ticketIs_iff_of_shownBy holds.shown

end Holds

end World

/-- What the status of a ticket says about the statuses of its requests, the earliest first. -/
structure TicketStatus.StandsAs (status : TicketStatus) (requests : List ApprovalStatus) : Prop where
  pending : status = .pending ↔ requests.count .pending = 1
  draft : status = .draft → requests = []
  rejected : status = .rejected → requests.getLast? = some .rejected
  approved : .approved ∈ requests → status = .approved

theorem TicketStatus.Agrees.standsAs {status : TicketStatus} {requests : List ApprovalStatus}
    (agrees : status.Agrees requests) : status.StandsAs requests := by
  have others {earlier : List ApprovalStatus} (all : ∀ other ∈ earlier, other = .rejected)
      {decision : ApprovalStatus} (different : decision ≠ .rejected) : decision ∉ earlier :=
    fun within => different (all decision within)
  cases status with
  | draft =>
      obtain rfl : requests = [] := agrees
      constructor <;> simp
  | pending =>
      obtain ⟨earlier, rfl, all⟩ := agrees
      have once : earlier.count .pending = 0 := List.count_eq_zero.2 (others all (by decide))
      have open_ : .approved ∉ earlier := others all (by decide)
      constructor <;> simp [once, open_]
  | rejected =>
      obtain ⟨some, all⟩ := agrees
      have none : requests.count .pending = 0 := List.count_eq_zero.2 (others all (by decide))
      refine ⟨by simp [none], by simp, fun _ => ?_, fun within => absurd within (others all (by decide))⟩
      rw [List.getLast?_eq_getLast_of_ne_nil some, all _ (List.getLast_mem some)]
  | approved =>
      obtain ⟨earlier, all, rfl | rfl⟩ := agrees
      · have none : requests.count .pending = 0 := List.count_eq_zero.2 (others all (by decide))
        constructor <;> simp [none]
      · have none : earlier.count .pending = 0 := List.count_eq_zero.2 (others all (by decide))
        constructor <;> simp [none]

namespace World

variable {environment : Session.Environment} {w : World}

/-- In every world that a nested run reaches and in which every submission has come to a point or to its end,
tickets and requests agree: exactly the tickets with one pending request are pending, a draft has no requests,
the last request of a rejected ticket is rejected, and a ticket with an approved request is approved. And a
ticket that is approved stays approved in whatever world is reached later. -/
theorem tickets_agree (reached : Runs environment inTurn start w) (rest : w.atRest = true) :
    ∀ document ∈ w.state.store.tickets, ∃ (id : String) (status : TicketStatus),
      Fields.get? document "ticket_id" = some (.text id) ∧
      Fields.get? document "status" = some (.text status.name) ∧
      status.StandsAs (w.statusesOf id) ∧
      (status = .approved → ∀ {w'}, Runs environment inTurn w w' →
        ∀ later, w'.TicketIs id later ↔ later = .approved) := by
  obtain ⟨ledger, holds, -, settles⟩ := reached.preserves (P := Settles)
    (fun holds settles turn _ changes _ => changes.settles holds.sound turn settles) holds_start
    Settles.start
  have agreed : ledger.Agreed := settles.agreed fun here =>
    Call.owes?_of_yields (List.all_eq_true.1 rest _ (List.mem_of_getElem? here))
  intro document member
  obtain ⟨mark, within, here⟩ := exists_of_mem_documents holds.shown.tickets member
  refine ⟨mark.id, mark.status, here.id, here.status, ?_, ?_⟩
  · rw [holds.statusesOf_eq]
    exact (agreed.agrees mark within).standsAs
  · intro approved w' runs later
    obtain ⟨after, there, -, -, stays⟩ := runs.preserves
      (P := fun w ledger => w.Settles ledger ∧ mark ∈ ledger.tickets)
      (fun holds known turn _ changes _ => ⟨changes.settles holds.sound turn known.1,
        changes.approved_stays holds.sound turn known.1 known.2 approved⟩) holds ⟨settles, within⟩
    rw [there.ticketIs_iff]
    constructor
    · intro found
      have same := there.sound.eq_of_ticketId found stays rfl
      exact (congrArg TicketMark.status same).trans approved
    · rintro rfl
      rwa [← approved]

/-- The ticket whose request both roles approved is approved, and stays so. -/
theorem tickets_agree_after_two_approvals :
    ∃ w, Runs Trial.environment inTurn start w ∧ w.atRest = true ∧ w.statusesOf "T" = [.approved] ∧
      TicketStatus.StandsAs .approved (w.statusesOf "T") ∧
      ∀ {w'}, Runs Trial.environment inTurn w w' → w'.TicketIs "T" .approved := by
  obtain ⟨w, reached, found⟩ := Runs.exists_of_play
    (p := fun w => (w.atRest && w.statusesOf "T" == [.approved]) && w.state.store.tickets.any fun document =>
      (Fields.getD document "ticket_id").text? == some "T")
    (show (start.play Trial.environment inTurn Trial.bothApprove).any _ = true by decide +kernel)
  obtain ⟨rests, keeps⟩ := Bool.and_eq_true_iff.1 found
  obtain ⟨rest, one⟩ := Bool.and_eq_true_iff.1 rests
  have statuses : w.statusesOf "T" = [.approved] := beq_iff_eq.1 one
  obtain ⟨document, member, named⟩ := List.any_eq_true.1 keeps
  obtain ⟨id, status, known, -, stands, stays⟩ := tickets_agree reached rest document member
  obtain rfl : id = "T" := by
    rw [Fields.getD, known] at named
    simpa [Value.text?] using named
  obtain rfl : status = .approved := stands.approved (by simp [statuses])
  exact ⟨w, reached, rest, statuses, stands, fun runs => (stays rfl runs .approved).2 rfl⟩

end World

end Countersign
