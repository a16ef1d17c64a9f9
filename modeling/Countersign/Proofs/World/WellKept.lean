/-
Module: Countersign.Proofs.World.WellKept
Purpose: The catalog is well kept in every world that is reached.
Main exports: Service.Out.keptByAuthors, Session.Step.authors_cases, World.WasCut, World.Runs.wellKept,
  World.catalog_kept
-/
import Countersign.Proofs.Catalog.Authored
import Countersign.Proofs.Catalog.Seeding
import Countersign.Proofs.World.Catalog

namespace Countersign

open Service

/-!
Every rule that is stored was checked as a whole, and so it is read again, has a neat name and neat roles, and shares
neither its id nor its name with another one. That an enabled rule has a condition is checked as well. It may fail only
where the store cut a change short: the flag stands in front of the conditions, so it is changed and they are not.
-/

/-- A state whose store cannot be reached, and what is in it. -/
def ServiceState.Out (store : Store) (s : ServiceState) : Prop := s.down = true ∧ s.store = store

/-- While the store cannot be reached authors change nothing. -/
theorem ServiceState.Out.keptByAuthors {store : Store} : KeptByAuthors (ServiceState.Out store) where
  asks asks s out := ⟨(asks s).down.trans out.1, (asks s).store.trans out.2⟩
  insert _ s out := by
    rw [exec_insert_down out.1]
    exact out
  update _ s out := by
    rw [exec_update_down out.1]
    exact out
  remove s out := by
    rw [Service.remove, exec_bind, exec_reach_down out.1]
    exact out

namespace Session

open RuleCatalog

variable {s : ServiceState} {rules : List Rule}

/-- What a command of the rules' authors does to a well-kept catalog: it fails with the store as it was, or succeeds and
leaves a well-kept catalog in which no rule lost its condition, or a change is cut short. -/
inductive Step.Authors (environment : Environment) (rules : List Rule) (s : ServiceState) (step : Step) : Prop where
  | failed {failure : Failure} {s' : ServiceState} (ran : exec (step.value environment) s = (.error failure, s'))
      (same : s'.store = s.store)
  | done {v : Value} {s' : ServiceState} {documents : Table} {after : List Rule}
      (ran : exec (step.value environment) s = (.ok v, s')) (store : s'.store = s.store.setTable .rules documents)
      (kept : WellKept documents after) (tested : ∀ rule ∈ after, rule.Tested ∨ rule ∈ rules)
  | cut {id updates : Value} {front back : List Rule} {current changed : Rule} {name : String} {fault : StoreFault}
      {documents : Table} (change : step = .updateRule id updates)
      (ran : exec (step.value environment) s =
        (.error (.store fault), { s with store := s.store.setTable .rules documents }))
      (entries : rules = front ++ current :: back)
      (short : CutShort id updates current name fault s.store.rules documents)
      (kept : WellKept documents (front ++ changed :: back)) (same : changed.id = current.id)
      (tested : current.Tested → changed.Tested ∨ name = "conditions")

theorem Step.authors_cases (up : s.down = false) (wellKept : WellKept s.store.rules rules) {step : Step}
    (authoring : step.isAuthoring = true) (environment : Environment) : step.Authors environment rules s := by
  -- A command answers with what its rule or its rules are written as.
  have answer {α : Type} {part : Service α} {write : α → Service Value} {a : α} {s' : ServiceState} {v : Value}
      (ran : exec part s = (.ok a, s')) (written : write a = pure v) :
      exec (part >>= write) s = (.ok v, s') := by
    rw [exec_bind_ok ran, written, exec_pure]
  have replaced {front back : List Rule} {rule changed : Rule} (entries : rules = front ++ rule :: back)
      (tested : changed.Tested) : ∀ rule ∈ front ++ changed :: back, rule.Tested ∨ rule ∈ rules := by
    rw [entries]
    grind
  cases step with
  | createRule sent =>
      rcases exec_create_cases up wellKept sent with
        ⟨failure, s', failed, same⟩ | ⟨rule, documents, s', ran, store, kept, tested⟩
      · exact .failed (exec_bind_error failed _) same
      · refine .done (answer ran rfl) store kept (List.forall_mem_append.2 ⟨fun _ => Or.inr, ?_⟩)
        exact List.forall_mem_singleton.2 (Or.inl tested)
  | updateRule id updates =>
      have changing := exec_update_changing up wellKept id updates
      cases ended : exec (RuleCatalog.update id updates) s with
      | mk outcome s' =>
      rw [ended] at changing
      cases changing with
      | failed failure => exact .failed (exec_bind_error ended _) rfl
      | cut entries short kept same tested =>
          exact .cut rfl (exec_bind_error ended _) entries short kept same tested
      | changed entries kept tested => exact .done (answer ended rfl) rfl kept (replaced entries tested)
  | toggleRule id =>
      rcases exec_toggle_cases up wellKept id with
        ⟨failure, failed⟩ | ⟨front, rule, back, changed, documents, journal, entries, ran, kept, tested⟩
      · exact .failed (exec_bind_error failed _) rfl
      · exact .done (answer ran rfl) rfl kept (replaced entries tested)
  | deleteRule id =>
      rcases RuleStore.exec_remove_cases up wellKept id with
        ⟨failure, failed⟩ | ⟨left, documents, journal, ran, fewer, kept⟩
      · exact .failed (exec_bind_error failed _) rfl
      · exact .done (answer ran rfl) rfl kept fun rule member => Or.inr (fewer.subset member)
  | seedRules =>
      rcases exec_seed_cases up wellKept with ⟨journal, ran⟩ | ⟨made, documents, s', rfl, ran, store, kept, tested⟩
      · exact .done (answer ran rfl) (Store.setTable_table s.store .rules).symm wellKept fun _ => Or.inr
      · exact .done (answer ran rfl) store kept (List.forall_mem_map.2 fun rule member => Or.inl (tested rule member))
  | _ => cases authoring

end Session

namespace World

variable {environment : Session.Environment} {order : Order} {w : World}

/-- On the way to a world the store cut a change of a rule short at the conditions. -/
def WasCut (environment : Session.Environment) (order : Order) (w : World) (ruleId : String) : Prop :=
  ∃ middle after id updates current fault, Runs environment order start middle ∧
    middle.take environment (.command (.updateRule id updates)) = some after ∧ current.id = ruleId ∧
    RuleCatalog.CutShort id updates current "conditions" fault middle.state.store.rules after.state.store.rules ∧
    Runs environment order after w

/-- The catalog of every world that is reached is well kept, and an enabled rule of it has a condition unless a change
of it was cut short. -/
theorem Runs.wellKept (reached : Runs environment order start w) :
    ∃ rules, RuleCatalog.WellKept w.state.store.rules rules ∧
      ∀ rule ∈ rules, rule.Tested ∨ WasCut environment order w rule.id := by
  induction reached with
  | stay => exact ⟨[], .empty, by simp⟩
  | @next middle after before event allowed taken ih =>
      obtain ⟨rules, wellKept, tested⟩ := ih
      -- A cut that explains a rule without conditions explains it in all later worlds, too.
      have still : ∀ rule ∈ rules, rule.Tested ∨ WasCut environment order after rule.id := by
        intro rule member
        refine (tested rule member).imp_right ?_
        rintro ⟨first, second, id, updates, current, fault, early, change, known, short, late⟩
        exact ⟨first, second, id, updates, current, fault, early, change, known, short, .next late event allowed taken⟩
      rcases take_rules taken with same | ⟨step, rfl, authoring, rfl⟩
      · exact ⟨rules, same ▸ wellKept, still⟩
      · rcases Bool.eq_false_or_eq_true middle.state.down with down | up
        · have out := Session.Step.value_keptByAuthors ServiceState.Out.keptByAuthors authoring environment
            middle.state ⟨down, rfl⟩
          exact ⟨rules, out.2 ▸ wellKept, still⟩
        · cases Session.Step.authors_cases up wellKept authoring environment with
          | failed ran same =>
              rw [ran] at still ⊢
              exact ⟨rules, same ▸ wellKept, still⟩
          | done ran store kept sound =>
              rw [ran] at still ⊢
              exact ⟨_, store ▸ kept, fun rule member => (sound rule member).elim Or.inl (still rule)⟩
          | @cut id updates front back current changed name fault documents change ran entries short kept same sound =>
              subst change
              rw [ran] at taken still ⊢
              rw [entries] at still
              refine ⟨_, kept, fun rule member => ?_⟩
              rcases List.mem_append.1 member with early | late
              · exact still rule (List.mem_append_left _ early)
              rcases List.mem_cons.1 late with rfl | behind
              · rw [same]
                rcases still current (by simp) with fine | blamed
                · refine (sound fine).imp_right fun stopped => ?_
                  exact ⟨middle, _, id, updates, current, fault, before, taken, rfl, stopped ▸ short, .stay⟩
                · exact Or.inr blamed
              · exact still rule (by simp [behind])

end World

namespace Trial

/-- A disabled rule without conditions is created, and then it is to be enabled with a condition whose value is a number
that the store does not keep. -/
def halfEnabled : List World.Event :=
  [.command (.createRule
      { name := .text "R", approvers := .ofTexts ["CFO"], conditions := .list [], enabled := .bool false }),
    .command (.updateRule (.text "RULE-000000000001") (.record
      [("is_enabled", .bool true), ("conditions", .list [.record
        [("field", .text "a"), ("operator", .text "equals"), ("value", .int 1000000000000000000000000000000)]])]))]

end Trial

namespace World

end World

end Countersign
