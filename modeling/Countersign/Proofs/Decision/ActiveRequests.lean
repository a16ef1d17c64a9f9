/-
Module: Countersign.Proofs.Decision.ActiveRequests
Purpose: Exactly when a ticket is refused another request, and what is stored when it is not.
Main exports: World.Runs.numbered, World.HasKey, World.Holds.free_iff, World.Enters, World.openRequest_answers
-/
import Countersign.Proofs.Decision.ActiveKeys
import Countersign.Proofs.Ledger.Proposals

namespace Countersign

open Service

/-!
The store refuses a new request when another one has its id or its key. The id is always a new one. The key is the
id of the ticket, so the request is refused when the ticket has a pending request; but it is also refused when the
ticket has the id of a decided request, since that request has its own id as its key. Callers choose the ids of
tickets, and nothing keeps them from taking one that a request was given before.
-/

namespace World

variable {environment : Session.Environment} {order : Order} {w w' : World} {ledger after : Ledger} {event : Event}

/-! ### The next number is a new one -/

/-- No event gives a number back. -/
theorem Holds.taken_le (holds : w.Holds ledger) (taken : w.take environment event = some w') (kind : String) :
    w.state.taken kind ≤ w'.state.taken kind := by
  cases becomes_of_take taken with
  | command command => exact (Session.Step.commands command environment w.state ledger holds.shown).taken kind
  | shift around => exact Nat.le_refl _
  | submit => exact w.state.taken_le_afterNew "LOCK" kind
  | advance here ran =>
      obtain ⟨id, on, knows⟩ := holds.knows here
      obtain ⟨next, s, after, went⟩ := Phase.step_goes on holds.shown holds.linked knows
      cases ran.symm.trans went.ran
      exact went.taken kind
  | cut here point => exact Nat.le_refl _

/-- The numbers of the requests in the store are those of the requests of the ledger. -/
theorem Holds.numbered_iff (holds : w.Holds ledger) :
    w.state.Numbered ↔
      ∀ holding ∈ ledger.requests, ∃ number ≤ w.state.taken "APR", holding.request.id = idText "APR" number := by
  constructor
  · intro numbered holding member
    obtain ⟨located⟩ := holds.shown.located member
    obtain ⟨number, few, named⟩ := numbered located.document (by rw [located.documents]; simp)
    rw [located.shown.id] at named
    exact ⟨number, few, Value.text.inj (Option.some.inj named)⟩
  · intro numbered document member
    obtain ⟨holding, within, here⟩ := exists_of_mem_documents holds.shown.requests member
    obtain ⟨number, few, named⟩ := numbered holding within
    exact ⟨number, few, by rw [here.id, named]⟩

/-- The number of every stored request was taken, after every event. -/
theorem Holds.numbered_take (holds : w.Holds ledger) (later : w'.Holds after)
    (taken : w.take environment event = some w') (changes : w.Changes ledger event w' after)
    (numbered : w.state.Numbered) : w'.state.Numbered := by
  have few := holds.taken_le taken "APR"
  have kept (requests : ∀ later ∈ after.requests, ∃ holding ∈ ledger.requests,
      holding.request.SameOrigin later.request) : w'.state.Numbered := by
    refine later.numbered_iff.2 fun newer member => ?_
    obtain ⟨holding, known, same⟩ := requests newer member
    obtain ⟨number, before, named⟩ := holds.numbered_iff.1 numbered holding known
    exact ⟨number, Nat.le_trans before few, same.id.trans named⟩
  cases changes with
  | @commanded step s _ commanded down counted =>
      cases becomes_of_take taken with
      | command command =>
          exact Session.Step.keeps ServiceState.Numbered.keptByAuthors
            ServiceState.Numbered.keptByRouting command environment w.state numbered
  | shifted down same => exact kept fun holding member => ⟨holding, member, .refl _⟩
  | submitted on made down same => exact kept fun holding member => ⟨holding, member, .refl _⟩
  | advanced here on knows moves down counts => exact kept (moves.submitted knows).origins
  | cut here point => exact kept fun holding member => ⟨holding, member, .refl _⟩

/-- In every world that is reached, the number of every stored request was taken. -/
theorem Runs.numbered (reached : Runs environment order start w) : w.state.Numbered := by
  obtain ⟨-, -, -, numbered⟩ := reached.preserves (P := fun w _ => w.state.Numbered)
    (fun holds numbered _ taken changes later => holds.numbered_take later taken changes numbered) holds_start
    (fun _ member => by cases member)
  exact numbered

/-! ### Keys that are taken -/

/-- Whether a text is the key of a stored request: the id of the ticket of a pending one, or the id of one that is
decided. -/
def HasKey (w : World) (key : String) : Prop :=
  (∃ request, w.Stores request ∧ request.status = .pending ∧ request.ticketId = key) ∨
    ∃ request, w.Stores request ∧ request.status ≠ .pending ∧ request.id = key

theorem Holds.hasKey_iff (holds : w.Holds ledger) {key : String} :
    w.HasKey key ↔ ∃ holding ∈ ledger.requests, holding.key = key := by
  have keyed (holding : Holding) : holding.key =
      if holding.request.status = .pending then holding.request.ticketId else holding.request.id :=
    Request.activeKey_eq _ _ _
  constructor
  · rintro (⟨request, stored, pending, same⟩ | ⟨request, stored, decided, same⟩)
    · obtain ⟨holding, member, rfl⟩ := holds.stores_iff.1 stored
      exact ⟨holding, member, by rw [keyed, if_pos pending, same]⟩
    · obtain ⟨holding, member, rfl⟩ := holds.stores_iff.1 stored
      exact ⟨holding, member, by rw [keyed, if_neg decided, same]⟩
  · rintro ⟨holding, member, same⟩
    rw [keyed] at same
    have stored := holds.stores_iff.2 ⟨holding, member, rfl⟩
    by_cases pending : holding.request.status = .pending
    · exact Or.inl ⟨_, stored, pending, by rwa [if_pos pending] at same⟩
    · exact Or.inr ⟨_, stored, pending, by rwa [if_neg pending] at same⟩

/-- The next request may be stored exactly when no request has the id of its ticket as its key. -/
theorem Holds.free_iff (holds : w.Holds ledger) (numbered : w.state.Numbered) (ask : Approval.Ask) :
    RequestStore.Free ledger (ask.next w.state) ↔ ¬ w.HasKey ask.ticketId := by
  rw [holds.hasKey_iff]
  constructor
  · rintro free ⟨holding, member, same⟩
    exact (free holding member).2 same
  · intro none holding member
    refine ⟨fun same => ?_, fun same => none ⟨holding, member, same⟩⟩
    obtain ⟨number, few, named⟩ := holds.numbered_iff.1 numbered holding member
    have next : holding.request.id = idText "APR" (w.state.taken "APR" + 1) := same
    have := idText_injective "APR" (named.symm.trans next)
    omega

/-! ### What opening a request answers -/

/-- A world in which a request that was asked for stands behind all others, with an id that no other had, and its
ticket is pending. -/
structure Enters (w : World) (ask : Approval.Ask) (w' : World) (request : Request) : Prop where
  document : ∃ document, w'.state.store.requests = w.state.store.requests ++ [document] ∧
    Request.check document = .accepted request
  fresh : ∀ other, w.Stores other → other.id ≠ request.id
  ticketId : request.ticketId = ask.ticketId
  pending : request.status = .pending
  version : request.version = 1
  approvers : request.approvers = (ask.roles.filter (· ≠ "")).eraseDups
  ruleTriggered : request.ruleTriggered = ask.rule
  told : w'.TicketIs ask.ticketId .pending
  actions : w'.state.store.actions = w.state.store.actions
  rules : w'.state.store.rules = w.state.store.rules

theorem Enters.stores {ask : Approval.Ask} {request : Request} (enters : w.Enters ask w' request) :
    w'.Stores request := by
  obtain ⟨document, grown, reads⟩ := enters.document
  exact ⟨document, by rw [grown]; simp, reads⟩

/-- A free request that was put behind all others, and of which its ticket was told, has entered. -/
theorem Holds.enters (holds : w.Holds ledger) {ask : Approval.Ask} {mark : TicketMark} (member : mark ∈ ledger.tickets)
    (about : ask.ticketId = mark.id) (new : RequestStore.Free ledger (ask.next w.state)) {request : Request}
    (keptAs : (ask.next w.state).KeptAs request) {s' : ServiceState} {tickets : Table}
    (stored : s'.store = (w.state.store.setTable .requests
      (w.state.store.requests ++ [Document.kept (ask.next w.state).document])).setTable .tickets tickets)
    (shows : ((ledger.enter request).tell mark.id .pending).ShownBy s'.store) :
    w.Enters ask ⟨s', w.calls⟩ request := by
  have requests := congrArg Store.requests stored
  have actions := congrArg Store.actions stored
  have rules := congrArg Store.rules stored
  refine ⟨⟨_, requests, ?_⟩, ?_, keptAs.ticketId, keptAs.status, keptAs.version, keptAs.approvers,
    keptAs.ruleTriggered, (ticketIs_iff_of_shownBy shows).2 ?_, actions, rules⟩
  · have related := shows.requests
    rw [requests] at related
    exact (last_shownBy related).reads
  · intro other known
    obtain ⟨holding, within, rfl⟩ := holds.stores_iff.1 known
    rw [keptAs.id]
    exact (new holding within).1
  · rw [about]
    exact Ledger.mem_tell.2 ⟨mark, member, by rw [if_pos rfl]⟩

/-- In every world that is reached, in whatever order submissions go on, a request that is asked for, for a ticket
that is not approved and with a role that is no empty text, is opened unless the store does not keep what it would
say or has its key taken: by the pending request of the ticket, or by a decided request of which the ticket has the
id. Where it is not opened nothing is stored. -/
theorem openRequest_answers (reached : Runs environment order start w) (up : w.state.down = false)
    {ask : Approval.Ask} {status : TicketStatus} (known : w.TicketIs ask.ticketId status)
    (undecided : status ≠ .approved) (named : ∃ role ∈ ask.roles, role ≠ "") :
    (¬ ask.Storable → ∃ fault,
      exec (Approval.openRequest ask.proposal) w.state = (.error (.store fault), w.state.afterNew "APR")) ∧
    (ask.Storable → w.HasKey ask.ticketId →
      exec (Approval.openRequest ask.proposal) w.state =
        (.error (.refused (.requestActive ask.ticketId)), w.state.afterNew "APR")) ∧
    (ask.Storable → ¬ w.HasKey ask.ticketId → ∃ given request s',
      exec (Approval.openRequest ask.proposal) w.state = (.ok given, s') ∧ given.KeptAs request ∧
        w.Enters ask ⟨s', w.calls⟩ request) := by
  obtain ⟨ledger, holds, -⟩ := reached.holds holds_start
  have member := holds.ticketIs_iff.1 known
  have some : ask.approvers ≠ [] := by
    obtain ⟨role, given, named⟩ := named
    exact List.ne_nil_of_mem (Approval.Ask.mem_approvers.2 ⟨given, named⟩)
  have free := holds.free_iff reached.numbered ask
  rcases @Approval.exec_openRequest_ask_cases _ _ _ ask up holds.shown member undecided rfl some with
    ⟨unfit, fault, failed⟩ | ⟨fit, taken, refused⟩ | ⟨fit, new, kept, tickets, journal, opened, keptAs, shows⟩
  · exact ⟨fun _ => ⟨fault, failed⟩, fun fit => absurd fit unfit, fun fit => absurd fit unfit⟩
  · refine ⟨fun unfit => absurd fit unfit, fun _ _ => refused, fun _ none => absurd (free.2 none) taken⟩
  · refine ⟨fun unfit => absurd fit unfit, fun _ key => absurd key (free.1 new), fun _ _ => ?_⟩
    exact ⟨ask.next w.state, kept, _, opened, keptAs, holds.enters member rfl new keptAs rfl shows⟩

/-- Whether the store keeps a ticket of an id that stands so. -/
def keepsTicket (w : World) (id : String) (status : TicketStatus) : Bool :=
  w.state.store.tickets.any fun document =>
    (Fields.getD document "ticket_id").text? == some id && (Fields.getD document "status").text? == some status.name

theorem ticketIs_of_keepsTicket {id : String} {status : TicketStatus} (keeps : w.keepsTicket id status = true) :
    w.TicketIs id status := by
  have read {document : Document} {name s : String} (read : (Fields.getD document name).text? = some s) :
      Fields.get? document name = some (.text s) := by
    have known := Value.text?_eq_some_iff.1 read
    rw [Fields.getD] at known
    cases found : Fields.get? document name with
    | none => simp [found] at known
    | some v => simpa [found] using known
  obtain ⟨document, member, named⟩ := List.any_eq_true.1 keeps
  obtain ⟨id, status⟩ := Bool.and_eq_true_iff.1 named
  exact ⟨document, member, read (beq_iff_eq.1 id), read (beq_iff_eq.1 status)⟩

end World

/-! ### A ticket that has the id of a request -/

namespace Trial

/-- The only role rejects the request, and a ticket is registered that has the id of the request. -/
def namedAfter : List World.Event :=
  opening ["X"] ++ [acts "X" .reject] ++ goesOn 0 8
    ++ [.command (.registerTicket { id := .text requestId, fields := .record [] })]

/-- What is asked for then, for that ticket. -/
def ask : Approval.Ask := { ticketId := requestId, roles := ["X"], rule := "R" }

theorem ask_storable : ask.Storable := by
  refine ⟨by decide, by decide, ?_⟩
  decide +kernel

end Trial

namespace World

/-- A request for a ticket that has no request is refused as if it had a pending one. -/
theorem openRequest_answers_of_namedAfter :
    ∃ w, Runs Trial.environment inTurn start w ∧ w.statusesOf Trial.requestId = [] ∧
      exec (Approval.openRequest Trial.ask.proposal) w.state =
        (.error (.refused (.requestActive Trial.requestId)), w.state.afterNew "APR") := by
  obtain ⟨w, reached, found⟩ := Runs.exists_of_play
    (p := fun w => (!w.state.down && w.statusesOf Trial.requestId == []) &&
      (w.keepsTicket Trial.requestId .draft &&
        w.storesAny fun request => request.status != .pending && request.id == Trial.requestId))
    (show (start.play Trial.environment inTurn Trial.namedAfter).any _ = true by decide +kernel)
  obtain ⟨seen, kept⟩ := Bool.and_eq_true_iff.1 found
  obtain ⟨up, nothing⟩ := Bool.and_eq_true_iff.1 seen
  obtain ⟨ticket, decided⟩ := Bool.and_eq_true_iff.1 kept
  obtain ⟨request, stored, known⟩ := exists_of_storesAny decided
  obtain ⟨terminal, same⟩ := Bool.and_eq_true_iff.1 known
  have taken : w.HasKey Trial.requestId := Or.inr ⟨request, stored, by simpa using terminal, beq_iff_eq.1 same⟩
  obtain ⟨-, refused, -⟩ := @openRequest_answers _ _ _ reached (by simpa using up) Trial.ask _
    (ticketIs_of_keepsTicket ticket) (by decide) ⟨"X", by decide, by decide⟩
  exact ⟨w, reached, beq_iff_eq.1 nothing, refused Trial.ask_storable taken⟩

end World

end Countersign
