/-
Module: Countersign.Proofs.Decision.ActiveKeys
Purpose: The key that pending requests share with their ticket, and that a ticket has one pending request.
Main exports: Request.activeKey_eq, Ledger.Sound.count_pending_le_one, World.active_keys
-/
import Countersign.Proofs.Decision.TicketAgreement

namespace Countersign

open Service

/-!
Two operations write the key of a request: opening it, and the commit that decides it. The store refuses a key
that another request has, and the key names the ticket exactly while the request is pending. So two pending
requests of one ticket would be two documents with one key.
-/

/-- The key of a request names its ticket while it is pending, and the request itself once it is decided. -/
theorem Request.activeKey_eq (ticketId requestId : String) (status : ApprovalStatus) :
    Request.activeKey ticketId requestId status = if status = .pending then ticketId else requestId := by
  cases status <;> rfl

/-- The only role rejects, and another request is opened for the ticket. -/
def Trial.reopened : List World.Event :=
  opening ["X"] ++ [acts "X" .reject] ++ goesOn 0 8 ++ (opening ["X"]).tail

namespace Ledger

variable {ledger : Ledger}

/-- Every pending request of a ticket has the id of the ticket as its key. -/
theorem count_pending_le_keys (ledger : Ledger) (ticketId : String) :
    (ledger.statusesOf ticketId).count .pending ≤ (ledger.requests.map Holding.key).count ticketId := by
  rw [statusesOf, standings, List.count_eq_countP, List.count_eq_countP, List.countP_map, List.countP_map,
    List.countP_filter, List.countP_map]
  apply List.countP_mono_left
  intro holding _ pending
  obtain ⟨waits, same⟩ := Bool.and_eq_true_iff.1 pending
  have waits : holding.request.status = .pending := beq_iff_eq.1 waits
  have same : holding.request.ticketId = ticketId := beq_iff_eq.1 same
  simp [Holding.key, Request.activeKey_eq, waits, same]

/-- A ticket has at most one pending request, since no two requests share their key. -/
theorem Sound.count_pending_le_one (sound : ledger.Sound) (ticketId : String) :
    (ledger.statusesOf ticketId).count .pending ≤ 1 :=
  (ledger.count_pending_le_keys ticketId).trans (List.nodup_iff_count_le_one.1 sound.activeKeys ticketId)

end Ledger

namespace World

variable {environment : Session.Environment} {order : Order} {w : World} {ledger : Ledger}

/-- The keys that the documents of requests have are those of the ledger. -/
theorem Holds.activeKeys_eq (holds : w.Holds ledger) :
    (w.state.store.requests.map fun document => Fields.get? document "active_key") =
      ledger.requests.map fun holding => some (.text holding.key) := by
  have related := holds.shown.requests
  generalize ledger.requests = entries, w.state.store.requests = documents at related ⊢
  induction related with
  | nil => rfl
  | cons here _ ih => rw [List.map_cons, List.map_cons, here.activeKey, ih]

/-- In every world that is reached, in whatever order submissions go on, the key of every request is the id of
its ticket while it is pending and its own id once it is decided, no two requests have the same key, and no
ticket has two pending requests. -/
theorem active_keys (reached : Runs environment order start w) :
    (∀ document ∈ w.state.store.requests, ∃ request, Request.check document = .accepted request ∧
      Fields.get? document "active_key" =
        some (.text (if request.status = .pending then request.ticketId else request.id))) ∧
    (w.state.store.requests.map fun document => Fields.get? document "active_key").Nodup ∧
    ∀ ticketId, (w.statusesOf ticketId).count .pending ≤ 1 := by
  obtain ⟨ledger, holds, -⟩ := reached.holds holds_start
  refine ⟨?_, ?_, ?_⟩
  · intro document member
    obtain ⟨holding, -, here⟩ := exists_of_mem_documents holds.shown.requests member
    refine ⟨holding.request, here.reads, ?_⟩
    rw [← Request.activeKey_eq]
    exact here.activeKey
  · have apart : Function.Injective fun key : String => some (Value.text key) := by
      intro one other same
      exact Value.text.inj (Option.some.inj same)
    rw [holds.activeKeys_eq]
    have nodup := holds.sound.activeKeys.map apart
    rwa [List.map_map] at nodup
  · intro ticketId
    rw [holds.statusesOf_eq]
    exact holds.sound.count_pending_le_one ticketId

/-- A ticket whose first request was rejected and which has a second one that is pending. -/
theorem active_keys_of_second_request :
    ∃ w, Runs Trial.environment inTurn start w ∧ w.statusesOf "T" = [.rejected, .pending] ∧
      (w.state.store.requests.map fun document => Fields.get? document "active_key").Nodup ∧
      (w.statusesOf "T").count .pending ≤ 1 := by
  obtain ⟨w, reached, found⟩ := Runs.exists_of_play
    (p := fun w => w.statusesOf "T" == [.rejected, .pending])
    (show (start.play Trial.environment inTurn Trial.reopened).any _ = true by decide +kernel)
  obtain ⟨-, nodup, once⟩ := active_keys reached
  exact ⟨w, reached, beq_iff_eq.1 found, nodup, once "T"⟩

end World

end Countersign
