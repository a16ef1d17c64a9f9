/-
Module: Countersign.Proofs.Commands.Aside
Purpose: Commands that leave requests, actions and tickets alone.
Main exports: Aside, Service.IsAside, Service.Asks.isAside, Aside.keptByAuthors, RuleCatalog.update_isAside
-/
import Countersign.Proofs.Commands.Authoring

namespace Countersign

open Service

/-!
What the rules' authors do, and what only asks, neither writes to the tables of requests, actions and tickets
nor decides whether the store can be reached; ids may be taken, but are never given back.
-/

/-- What may have changed when a command left requests, actions and tickets alone. -/
structure Aside (s s' : ServiceState) : Prop where
  requests : s'.store.requests = s.store.requests
  actions : s'.store.actions = s.store.actions
  tickets : s'.store.tickets = s.store.tickets
  down : s'.down = s.down
  taken : ∀ kind, s.taken kind ≤ s'.taken kind

namespace Aside

theorem refl (s : ServiceState) : Aside s s := ⟨rfl, rfl, rfl, rfl, fun _ => Nat.le_refl _⟩

theorem trans {a b c : ServiceState} (first : Aside a b) (second : Aside b c) : Aside a c :=
  ⟨second.requests.trans first.requests, second.actions.trans first.actions,
    second.tickets.trans first.tickets, second.down.trans first.down,
    fun kind => Nat.le_trans (first.taken kind) (second.taken kind)⟩

end Aside

namespace Service

variable {α β : Type}

/-- A part of a command that leaves requests, actions and tickets alone. -/
def IsAside (part : Service α) : Prop := Within Aside part

/-- What only asks leaves them alone. -/
theorem Asks.isAside {part : Service α} (asks : Asks part) : IsAside part := fun s =>
  ⟨congrArg Store.requests (asks s).store, congrArg Store.actions (asks s).store,
    congrArg Store.tickets (asks s).store, (asks s).down, (asks s).taken⟩

namespace IsAside

theorem throw {failure : Failure} : IsAside (throw failure : Service α) :=
  Within.throw Aside.refl failure

theorem pure {a : α} : IsAside (pure a : Service α) := Within.pure Aside.refl a

theorem bind {part : Service α} {next : α → Service β} (first : IsAside part)
    (second : ∀ a, IsAside (next a)) : IsAside (part >>= next) :=
  Within.bind @Aside.trans first second

/-- The table of rules may be written. -/
theorem write_rules {table : Table} : IsAside (write .rules table) :=
  fun _ => ⟨rfl, rfl, rfl, rfl, fun _ => Nat.le_refl _⟩

theorem insert_rules {document : Document} : IsAside (insert .rules document) := by
  refine bind Asks.reach.isAside fun store => bind write_rules fun _ => ?_
  split
  · exact pure
  · exact pure
  · exact throw

theorem update_rules {query : Query} {alteration : Change} :
    IsAside (update .rules query alteration) := by
  refine bind (bind Asks.reach.isAside fun store => bind Asks.found.isAside fun outcome => ?_) fun _ => pure
  cases outcome with
  | changed before after table => exact bind write_rules fun _ => pure
  | unmet => exact pure
  | refused fault table => exact bind write_rules fun _ => throw

theorem remove_rules {query : Query} : IsAside (remove .rules query) := by
  refine bind Asks.reach.isAside fun store => bind Asks.found.isAside fun outcome => ?_
  cases outcome with
  | some table => exact bind write_rules fun _ => pure
  | none => exact pure

/-- What was left alone before is left alone by what goes on. -/
theorem keeps {part : Service α} (aside : IsAside part) (s : ServiceState) : Keeps (Aside s) part :=
  fun middle before => before.trans (aside middle)

theorem of_keeps {part : Service α} (keeps : ∀ s, Keeps (Aside s) part) : IsAside part :=
  fun s => keeps s s (.refl s)

end IsAside

end Service

/-- The rules' authors leave requests, actions and tickets alone. -/
theorem Aside.keptByAuthors (s : ServiceState) : KeptByAuthors (Aside s) where
  asks asks := asks.isAside.keeps s
  insert _ := IsAside.insert_rules.keeps s
  update _ := IsAside.update_rules.keeps s
  remove := IsAside.remove_rules.keeps s

namespace RuleCatalog

theorem create_isAside (sent : NewRule) : IsAside (create sent) :=
  .of_keeps fun s => create_keeps (Aside.keptByAuthors s) sent

theorem update_isAside (id updates : Value) : IsAside (update id updates) :=
  .of_keeps fun s => update_keeps (Aside.keptByAuthors s) id updates

theorem toggle_isAside (id : Value) : IsAside (toggle id) :=
  .of_keeps fun s => toggle_keeps (Aside.keptByAuthors s) id

theorem remove_isAside (id : Value) : IsAside (remove id) :=
  .of_keeps fun s => RuleStore.remove_keeps (Aside.keptByAuthors s) id

theorem seed_isAside : IsAside seed := .of_keeps fun s => seed_keeps (Aside.keptByAuthors s)

end RuleCatalog

end Countersign
