/-
Module: Countersign.Store.Basic
Purpose: The store of the service: one table for each kind of record.
Main exports: Collection, Collection.uniqueKeys, Store, Store.table, Store.setTable
-/
import Countersign.Store.Table

namespace Countersign

/-- The tables of the store. -/
inductive Collection where
  | rules
  | requests
  | actions
  | tickets
deriving DecidableEq, Repr

namespace Collection

def name : Collection → String
  | rules => "approval_rules"
  | requests => "approval_requests"
  | actions => "approval_actions"
  | tickets => "tickets"

def all : List Collection := [rules, requests, actions, tickets]

def ofName? (s : String) : Option Collection := all.find? (·.name == s)

/-- The keys that no two documents of a table share. -/
def uniqueKeys : Collection → List String
  | rules => ["rule_id", "name"]
  | requests => ["approval_request_id", "active_key"]
  | actions => ["action_id", "idempotency_key"]
  | tickets => ["ticket_id"]

end Collection

/-- All that is stored. -/
structure Store where
  rules : Table := []
  requests : Table := []
  actions : Table := []
  tickets : Table := []
deriving Repr

namespace Store

def table (store : Store) : Collection → Table
  | .rules => store.rules
  | .requests => store.requests
  | .actions => store.actions
  | .tickets => store.tickets

def setTable (store : Store) (collection : Collection) (table : Table) : Store :=
  match collection with
  | .rules => { store with rules := table }
  | .requests => { store with requests := table }
  | .actions => { store with actions := table }
  | .tickets => { store with tickets := table }

@[simp] theorem table_setTable_self (store : Store) (collection : Collection) (table : Table) :
    (store.setTable collection table).table collection = table := by
  cases collection <;> rfl

/-- Writing one table leaves the others. -/
theorem table_setTable_of_ne (store : Store) {collection other : Collection} (table : Table)
    (different : collection ≠ other) :
    (store.setTable collection table).table other = store.table other := by
  cases collection <;> cases other <;> first | rfl | exact absurd rfl different

@[simp] theorem setTable_table (store : Store) (collection : Collection) :
    store.setTable collection (store.table collection) = store := by
  cases collection <;> rfl

end Store

end Countersign
