/-
Module: Countersign.Proofs.Ledger.Evolution
Purpose: What commands and submissions may do to a ledger, and what they keep of it.
Main exports: Request.SameOrigin, Ledger.Evolves, Ledger.Spares, Ledger.Cites, Ledger.Submitted,
  Ledger.Submitted.evolves, Ledger.Submitted.spares, Ledger.Submitted.origins, Ledger.Submitted.tickets,
  Ledger.Commanded.evolves, Ledger.Commanded.tickets, Ledger.Commanded.spares
-/
import Countersign.Proofs.Commands.Changes
import Countersign.Proofs.Ledger.Trail

namespace Countersign

/-!
Nothing is ever taken out of a ledger: requests keep what opening them fixed, those that are decided stay as
they are, and the trail only grows. A submission changes the lease of its own request, and its status only
while it holds that lease, so the leases of all others are spared.
-/

/-- Two requests of which opening fixed the same. -/
structure Request.SameOrigin (request other : Request) : Prop where
  id : other.id = request.id
  ticketId : other.ticketId = request.ticketId
  approvers : other.approvers = request.approvers
  ruleTriggered : other.ruleTriggered = request.ruleTriggered
  roleToRules : other.roleToRules = request.roleToRules
  createdAt : other.createdAt = request.createdAt

namespace Request.SameOrigin

variable {first second third : Request}

theorem refl (request : Request) : request.SameOrigin request := ⟨rfl, rfl, rfl, rfl, rfl, rfl⟩

theorem trans (one : first.SameOrigin second) (two : second.SameOrigin third) :
    first.SameOrigin third :=
  ⟨two.id.trans one.id, two.ticketId.trans one.ticketId, two.approvers.trans one.approvers,
    two.ruleTriggered.trans one.ruleTriggered, two.roleToRules.trans one.roleToRules,
    two.createdAt.trans one.createdAt⟩

theorem moved (request : Request) (status : ApprovalStatus) (time : Moment) :
    request.SameOrigin (request.moved status time) := ⟨rfl, rfl, rfl, rfl, rfl, rfl⟩

end Request.SameOrigin

namespace Ledger

/-! ### What stays -/

/-- What a later ledger keeps of an earlier one. -/
structure Evolves (ledger after : Ledger) : Prop where
  origins : ∀ holding ∈ ledger.requests,
    ∃ later ∈ after.requests, holding.request.SameOrigin later.request
  decided : ∀ holding ∈ ledger.requests, holding.request.status.isTerminal = true →
    ∃ later ∈ after.requests, later.request = holding.request
  actions : ledger.actions <+: after.actions

namespace Evolves

theorem refl (ledger : Ledger) : ledger.Evolves ledger :=
  ⟨fun holding member => ⟨holding, member, .refl _⟩, fun holding member _ => ⟨holding, member, rfl⟩,
    List.prefix_refl _⟩

/-- Tickets have no part in it. -/
theorem congr {ledger after later : Ledger} (evolves : ledger.Evolves after) (requests : later.requests = after.requests)
    (actions : later.actions = after.actions) : ledger.Evolves later :=
  ⟨requests ▸ evolves.origins, requests ▸ evolves.decided, actions ▸ evolves.actions⟩

theorem trans {first second third : Ledger} (one : first.Evolves second) (two : second.Evolves third) :
    first.Evolves third := by
  refine ⟨?_, ?_, one.actions.trans two.actions⟩
  · intro holding member
    obtain ⟨middle, known, same⟩ := one.origins holding member
    obtain ⟨last, found, further⟩ := two.origins middle known
    exact ⟨last, found, same.trans further⟩
  · intro holding member terminal
    obtain ⟨middle, known, same⟩ := one.decided holding member terminal
    obtain ⟨last, found, further⟩ := two.decided middle known (by rw [same]; exact terminal)
    exact ⟨last, found, further.trans same⟩

theorem mem_actions {ledger after : Ledger} (evolves : ledger.Evolves after) {action : Action}
    (member : action ∈ ledger.actions) : action ∈ after.actions := evolves.actions.subset member

end Evolves

/-- Every request on which a holder has the lease afterwards was there before, with that lease. -/
def Spares (token : String) (ledger after : Ledger) : Prop :=
  ∀ holding ∈ after.requests, holding.holder? = some token → holding ∈ ledger.requests

namespace Spares

theorem refl (token : String) (ledger : Ledger) : Spares token ledger ledger :=
  fun _ member _ => member

end Spares

/-! ### Changes of one request -/

section OnRequest

variable {ledger : Ledger} {id token : String} {f : Holding → Holding}

theorem mem_onRequest {holding : Holding} :
    holding ∈ (ledger.onRequest id f).requests ↔
      ∃ before ∈ ledger.requests, (if before.request.id = id then f before else before) = holding := by
  simp [onRequest]

/-- What stands after a change of one request stood before, as it is or changed. -/
theorem exists_of_mem_onRequest {R : Holding → Holding → Prop} (changed : ∀ holding, R holding (f holding))
    (same : ∀ holding, R holding holding) {later : Holding} (member : later ∈ (ledger.onRequest id f).requests) :
    ∃ holding ∈ ledger.requests, R holding later := by
  obtain ⟨holding, known, rfl⟩ := mem_onRequest.1 member
  refine ⟨holding, known, ?_⟩
  split
  · exact changed holding
  · exact same holding

/-- A change of one request that keeps what opening it fixed and leaves it alone when it is decided. -/
theorem evolves_onRequest (origin : ∀ holding : Holding, holding.request.SameOrigin (f holding).request)
    (decided : ∀ holding ∈ ledger.requests, holding.request.id = id →
      holding.request.status.isTerminal = true → (f holding).request = holding.request) :
    ledger.Evolves (ledger.onRequest id f) := by
  refine ⟨?_, ?_, List.prefix_refl _⟩
  · intro holding member
    refine ⟨_, mem_onRequest.2 ⟨holding, member, rfl⟩, ?_⟩
    split
    · exact origin holding
    · exact .refl _
  · intro holding member terminal
    refine ⟨_, mem_onRequest.2 ⟨holding, member, rfl⟩, ?_⟩
    split
    · next same => exact decided holding member same terminal
    · rfl

/-- A change that gives a holder no lease spares the leases of that holder. -/
theorem spares_onRequest
    (taken : ∀ holding ∈ ledger.requests, holding.request.id = id → (f holding).holder? ≠ some token) :
    Spares token ledger (ledger.onRequest id f) := by
  intro holding member held
  obtain ⟨before, known, rfl⟩ := mem_onRequest.1 member
  by_cases same : before.request.id = id
  · rw [if_pos same] at held
    exact absurd held (taken before known same)
  · rwa [if_neg same]

end OnRequest

/-! ### What a submission does -/

/-- The actions of a history are on a request, and the trail has them. -/
def Cites (ledger : Ledger) (id : String) (history : List Action) : Prop :=
  ∀ action ∈ history, ∃ kept ∈ ledger.actions, kept.requestId = id ∧ kept.step = action.step

namespace Cites

theorem evolve {ledger after : Ledger} {id : String} {history : List Action}
    (cites : ledger.Cites id history) (evolves : ledger.Evolves after) : after.Cites id history := by
  intro action within
  obtain ⟨kept, member, about, same⟩ := cites action within
  exact ⟨kept, evolves.mem_actions member, about, same⟩

theorem history (ledger : Ledger) (id : String) : ledger.Cites id (ledger.history id) := by
  intro action within
  obtain ⟨member, about⟩ := mem_history.1 within
  exact ⟨action, member, about, rfl⟩

end Cites

/-- What one step of a submission with a token may make of a ledger. -/
inductive Submitted (token id : String) (ledger : Ledger) : Ledger → Prop where
  | nothing : Submitted token id ledger ledger
  | leased (holding : Holding) (member : holding ∈ ledger.requests) (same : holding.request.id = id)
      (ends : Double) : Submitted token id ledger (ledger.lease id ⟨token, ends⟩)
  | freed (holding : Holding) (member : holding ∈ ledger.requests) (same : holding.request.id = id)
      (held : holding.holder? = some token) : Submitted token id ledger (ledger.free id)
  | moved (holding : Holding) (member : holding ∈ ledger.requests) (same : holding.request.id = id)
      (held : holding.holder? = some token) (pending : holding.request.status = .pending)
      (history : List Action) (cites : ledger.Cites id history) (time : Moment) (releasing : Bool) :
      Submitted token id ledger
        (ledger.move id (.ofActions holding.request.approvers history) time releasing)
  | recorded (action : Action) (about : action.requestId = id) :
      Submitted token id ledger (ledger.append action)
  | told (ticketId : String) (status : TicketStatus) :
      Submitted token id ledger (ledger.tell ticketId status)

theorem Submitted.evolves {token id : String} {ledger after : Ledger} (sound : ledger.Sound)
    (submitted : Submitted token id ledger after) : ledger.Evolves after := by
  cases submitted with
  | nothing => exact .refl _
  | leased holding member same ends => exact evolves_onRequest (fun _ => .refl _) fun _ _ _ _ => rfl
  | freed holding member same held => exact evolves_onRequest (fun _ => .refl _) fun _ _ _ _ => rfl
  | moved holding member same held pending history cites time releasing =>
      apply evolves_onRequest (fun _ => .moved _ _ _)
      intro other known about terminal
      obtain rfl := sound.eq_of_id known member (about.trans same.symm)
      rw [pending] at terminal
      cases terminal
  | recorded action about =>
      exact ⟨fun holding member => ⟨holding, member, .refl _⟩,
        fun holding member _ => ⟨holding, member, rfl⟩, List.prefix_append _ _⟩
  | told ticketId status =>
      exact ⟨fun holding member => ⟨holding, member, .refl _⟩,
        fun holding member _ => ⟨holding, member, rfl⟩, List.prefix_refl _⟩

theorem Submitted.spares {token other id : String} {ledger after : Ledger} (sound : ledger.Sound)
    (submitted : Submitted token id ledger after) (different : other ≠ token) :
    Spares other ledger after := by
  cases submitted with
  | nothing => exact .refl _ _
  | leased holding member same ends =>
      exact spares_onRequest fun _ _ _ held => different (Option.some.inj held).symm
  | freed holding member same held => exact spares_onRequest fun _ _ _ held => by cases held
  | moved holding member same held pending history cites time releasing =>
      apply spares_onRequest
      intro before known about taken
      obtain rfl := sound.eq_of_id known member (about.trans same.symm)
      cases releasing with
      | true => cases taken
      | false => exact different (Option.some.inj (taken.symm.trans held))
  | recorded action about => exact fun _ member _ => member
  | told ticketId status => exact fun _ member _ => member

/-- A submission opens no request. -/
theorem Submitted.origins {token id : String} {ledger after : Ledger}
    (submitted : Submitted token id ledger after) :
    ∀ later ∈ after.requests, ∃ holding ∈ ledger.requests, holding.request.SameOrigin later.request := by
  have changed {f : Holding → Holding}
      (origin : ∀ holding : Holding, holding.request.SameOrigin (f holding).request) :
      ∀ later ∈ (ledger.onRequest id f).requests, ∃ holding ∈ ledger.requests,
        holding.request.SameOrigin later.request :=
    fun _ => exists_of_mem_onRequest (R := fun one other => one.request.SameOrigin other.request) origin
      fun _ => .refl _
  cases submitted with
  | nothing => exact fun holding member => ⟨holding, member, .refl _⟩
  | leased holding member same ends => exact changed fun _ => .refl _
  | freed holding member same held => exact changed fun _ => .refl _
  | moved holding member same held pending history cites time releasing =>
      exact changed fun _ => .moved _ _ _
  | recorded action about => exact fun holding member => ⟨holding, member, .refl _⟩
  | told ticketId status => exact fun holding member => ⟨holding, member, .refl _⟩

/-- A submission takes no ticket out. -/
theorem Submitted.tickets {token id : String} {ledger after : Ledger}
    (submitted : Submitted token id ledger after) :
    ledger.tickets.map (·.id) ⊆ after.tickets.map (·.id) := by
  cases submitted with
  | told ticketId status =>
      rw [tell_ids]
      exact fun _ within => within
  | _ => exact fun _ within => within

/-! ### What other commands do -/

/-- A request that is put behind all others leaves these as they are. -/
theorem evolves_enter (ledger : Ledger) (request : Request) : ledger.Evolves (ledger.enter request) :=
  ⟨fun holding member => ⟨holding, List.mem_append_left _ member, .refl _⟩,
    fun holding member _ => ⟨holding, List.mem_append_left _ member, rfl⟩, List.prefix_refl _⟩

/-- Nobody holds a lease on it. -/
theorem spares_enter (ledger : Ledger) (request : Request) (token : String) :
    Spares token ledger (ledger.enter request) := by
  intro holding member held
  rcases List.mem_append.mp member with old | new
  · exact old
  · obtain rfl := List.mem_singleton.mp new
    cases held

namespace Commanded

variable {ledger after : Ledger}

theorem evolves (commanded : ledger.Commanded after) : ledger.Evolves after := by
  cases commanded with
  | nothing => exact .refl _
  | registered mark draft fresh => exact (Evolves.refl ledger).congr rfl rfl
  | opened request admits => exact (evolves_enter ledger request).congr rfl rfl
  | approved mark member submittable => exact (Evolves.refl ledger).congr rfl rfl

/-- Only submissions record actions. -/
theorem actions_eq (commanded : ledger.Commanded after) : after.actions = ledger.actions := by
  cases commanded <;> rfl

/-- No command takes a ticket out. -/
theorem tickets (commanded : ledger.Commanded after) :
    ledger.tickets.map (·.id) ⊆ after.tickets.map (·.id) := by
  cases commanded with
  | nothing => exact fun _ within => within
  | registered mark draft fresh => simp [register]
  | opened request admits =>
      rw [tell_ids]
      exact fun _ within => within
  | approved mark member submittable =>
      rw [tell_ids]
      exact fun _ within => within

theorem spares (commanded : ledger.Commanded after) (token : String) : Spares token ledger after := by
  cases commanded with
  | nothing => exact .refl _ _
  | registered mark draft fresh => exact fun _ member _ => member
  | opened request admits => exact spares_enter ledger request token
  | approved mark member submittable => exact fun _ member _ => member

end Commanded

end Ledger

end Countersign
