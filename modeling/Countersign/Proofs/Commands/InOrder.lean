/-
Module: Countersign.Proofs.Commands.InOrder
Purpose: Where the store is in order and no lease is taken, every command that is no submission leaves it so.
Main exports: Ledger.Unleased, ServiceState.InOrder, ServiceState.InOrder.asks, Routing.register_inOrder,
  Routing.submit_inOrder, RuleCatalog.create_inOrder, RuleCatalog.update_inOrder
-/
import Countersign.Proofs.Catalog.Refusing
import Countersign.Proofs.Commands.Catalog
import Countersign.Proofs.Commands.Changes
import Countersign.Proofs.Ledger.Links

namespace Countersign

open Service

/-!
Between two commands that run one after the other nobody holds a lease, the store shows a ledger, and the catalog is
well kept.
-/

/-- Nobody holds a lease on a request. -/
def Ledger.Unleased (ledger : Ledger) : Prop := ∀ holding ∈ ledger.requests, holding.lease = none

/-- No command but a submission takes a lease. -/
theorem Ledger.Commanded.unleased {ledger after : Ledger} (commanded : ledger.Commanded after)
    (unleased : ledger.Unleased) : after.Unleased := by
  cases commanded with
  | nothing => exact unleased
  | registered mark => exact unleased
  | opened request admits => exact List.forall_mem_append.2 ⟨unleased, List.forall_mem_singleton.2 rfl⟩
  | approved mark => exact unleased

/-- A state in which the store can be reached and is in order. -/
structure ServiceState.InOrder (s : ServiceState) : Prop where
  up : s.down = false
  ledger : ∃ ledger : Ledger, ledger.ShownBy s.store ∧ ledger.Linked (s.taken "ACT") ∧ ledger.Unleased
  rules : ∃ rules, RuleCatalog.WellKept s.store.rules rules

namespace ServiceState.InOrder

variable {s s' : ServiceState}

/-- An empty store is. -/
theorem start (clock : Int) (link : Link) : InOrder { clock, link } where
  up := rfl
  ledger := ⟨{}, Ledger.shownBy_empty, .empty, fun _ member => by cases member⟩
  rules := ⟨[], .empty⟩

theorem cataloged (inOrder : s.InOrder) : s.Cataloged := by
  obtain ⟨rules, wellKept⟩ := inOrder.rules
  exact wellKept.isRule

/-- What asks leaves it in order. -/
theorem asked (inOrder : s.InOrder) (asked : Asked s s') : s'.InOrder where
  up := asked.down.trans inOrder.up
  ledger := by
    obtain ⟨ledger, shown, linked, unleased⟩ := inOrder.ledger
    exact ⟨ledger, asked.store ▸ shown, linked.commanded (asked.taken _) .nothing, unleased⟩
  rules := asked.store ▸ inOrder.rules

theorem asks {α : Type} {part : Service α} (asks : Asks part) : Keeps InOrder part :=
  fun s inOrder => inOrder.asked (asks s)

/-- What leaves requests, actions and tickets alone, and a well-kept catalog, leaves it in order. -/
theorem aside (inOrder : s.InOrder) (aside : Aside s s') (kept : ∃ rules, RuleCatalog.WellKept s'.store.rules rules) :
    s'.InOrder where
  up := aside.down.trans inOrder.up
  ledger := by
    obtain ⟨ledger, shown, linked, unleased⟩ := inOrder.ledger
    exact ⟨ledger, shown.congr aside.requests aside.actions aside.tickets,
      linked.commanded (aside.taken _) .nothing, unleased⟩
  rules := kept

/-- What does to the ledger as commands do, and leaves the catalog alone, leaves it in order. -/
theorem commands {α : Type} {part : Service α} (commands : Commands part)
    (still : ∀ P : Table → Prop, Keeps (ServiceState.RulesHave P) part) : Keeps InOrder part := by
  intro s inOrder
  obtain ⟨ledger, shown, linked, unleased⟩ := inOrder.ledger
  obtain ⟨⟨after, shows, commanded⟩, down, few⟩ := commands s ledger shown
  obtain ⟨rules, wellKept⟩ := inOrder.rules
  exact ⟨down.trans inOrder.up, ⟨after, shows, linked.commanded (few _) commanded, commanded.unleased unleased⟩,
    still (fun table => ∃ rules, RuleCatalog.WellKept table rules) s ⟨rules, wellKept⟩⟩

end ServiceState.InOrder

open ServiceState

theorem Routing.register_inOrder (sent : NewTicket) : Keeps InOrder (register sent) :=
  InOrder.commands (register_commands sent) fun _ => register_keeps RulesHave.keptByRouting sent

theorem Approval.openRequest_inOrder (proposal : Proposal) : Keeps InOrder (openRequest proposal) :=
  InOrder.commands (openRequest_commands proposal) fun _ => openRequest_keeps RulesHave.keptByRouting proposal

theorem Routing.submit_inOrder (id : Value) : Keeps InOrder (submit id) :=
  InOrder.commands (submit_commands id) fun _ => submit_keeps RulesHave.keptByRouting id

namespace RuleCatalog

theorem create_inOrder (sent : NewRule) : Keeps InOrder (create sent) := by
  intro s inOrder
  obtain ⟨rules, wellKept⟩ := inOrder.rules
  refine inOrder.aside (create_isAside sent s) ?_
  rcases exec_create_cases inOrder.up wellKept sent with
    ⟨failure, s', failed, same⟩ | ⟨rule, documents, s', ran, store, kept, -⟩
  · exact ⟨rules, by rwa [failed, same]⟩
  · exact ⟨_, by rw [ran, store]; exact kept⟩

theorem update_inOrder (id updates : Value) : Keeps InOrder (update id updates) := by
  intro s inOrder
  obtain ⟨rules, wellKept⟩ := inOrder.rules
  refine inOrder.aside (update_isAside id updates s) ?_
  have changing := exec_update_changing inOrder.up wellKept id updates
  generalize exec (update id updates) s = ended at changing
  cases changing with
  | failed failure => exact ⟨rules, wellKept⟩
  | cut entries short kept => exact ⟨_, kept⟩
  | changed entries kept => exact ⟨_, kept⟩

theorem toggle_inOrder (id : Value) : Keeps InOrder (toggle id) :=
  .bind (InOrder.asks (RuleStore.get_asks id)) fun _ => update_inOrder id _

theorem remove_inOrder (id : Value) : Keeps InOrder (remove id) := by
  intro s inOrder
  obtain ⟨rules, wellKept⟩ := inOrder.rules
  refine inOrder.aside (remove_isAside id s) ?_
  rcases RuleStore.exec_remove_cases inOrder.up wellKept id with
    ⟨failure, failed⟩ | ⟨left, documents, journal, ran, -, kept⟩
  · exact ⟨rules, by rwa [remove, failed]⟩
  · exact ⟨left, by rw [remove, ran]; exact kept⟩

theorem seed_inOrder : Keeps InOrder seed := by
  intro s inOrder
  obtain ⟨rules, wellKept⟩ := inOrder.rules
  refine inOrder.aside (seed_isAside s) ?_
  rcases exec_seed_cases inOrder.up wellKept with ⟨journal, ran⟩ | ⟨made, documents, s', -, ran, store, kept, -⟩
  · exact ⟨rules, by rwa [ran]⟩
  · exact ⟨_, by rw [ran, store]; exact kept⟩

end RuleCatalog

end Countersign
