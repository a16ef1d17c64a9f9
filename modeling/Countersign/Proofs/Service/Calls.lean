/-
Module: Countersign.Proofs.Service.Calls
Purpose: What single calls to the store answer and leave behind, given what their tables do.
Main exports: Service.exec_findOne, Service.exec_select, Service.exec_insert_of_fault,
  Service.of_exec_insert, Service.exec_change_changed, Service.exec_update_changed, Service.all_exec_insert,
  Service.all_exec_change
-/
import Countersign.Proofs.Service.Execution
import Countersign.Proofs.Store.Tables

namespace Countersign.Service

/-!
A call to a store that is down fails and changes nothing. A call to a store that is up answers what its
table answers, and changes no other table.
-/

variable {collection : Collection} {query : Query} {s : ServiceState}

/-! ### While the store is down -/

theorem exec_findOne_down (down : s.down = true) :
    exec (findOne collection query) s = (.error .storeDown, s) := by
  rw [findOne, exec_bind, exec_reach_down down]

theorem exec_select_down (down : s.down = true) (keys : List SortKey) :
    exec (select collection query keys) s = (.error .storeDown, s) := by
  rw [select, exec_bind, exec_reach_down down]

theorem exec_insert_down (down : s.down = true) (document : Document) :
    exec (insert collection document) s = (.error .storeDown, s) := by
  rw [insert, exec_bind, exec_reach_down down]

theorem exec_change_down (down : s.down = true) (alteration : Change) :
    exec (change collection query alteration) s = (.error .storeDown, s) := by
  rw [change, exec_bind, exec_reach_down down]

theorem exec_update_down (down : s.down = true) (alteration : Change) :
    exec (update collection query alteration) s = (.error .storeDown, s) := by
  rw [update, exec_bind, exec_change_down down]

/-! ### While the store is up -/

theorem exec_findOne (up : s.down = false) {outcome : Except FilterFault (Option Document)}
    (looked : (s.store.table collection).find? query = outcome) :
    exec (findOne collection query) s = exec (found outcome) s := by
  rw [findOne, exec_bind, exec_reach_up up]
  exact congrArg (fun outcome => exec (found outcome) s) looked

theorem exec_select (collection : Collection) (up : s.down = false) {keys : List SortKey}
    {outcome : Except FilterFault (List Document)}
    (looked : (s.store.table collection).select query keys = outcome) :
    exec (select collection query keys) s = exec (found outcome) s := by
  rw [select, exec_bind, exec_reach_up up]
  exact congrArg (fun outcome => exec (found outcome) s) looked

/-- An insertion leaves its table as the table says, and fails unless it succeeds or a key is taken. -/
theorem exec_insert (collection : Collection) (up : s.down = false) {document : Document} {table : Table}
    {fault : Option StoreFault}
    (made : (s.store.table collection).insert collection.uniqueKeys document = ⟨table, fault⟩) :
    exec (insert collection document) s =
      (match fault with
        | none => .ok true
        | some .keyTaken => .ok false
        | some fault => .error (.store fault),
        { s with store := s.store.setTable collection table }) := by
  rw [insert, exec_bind, exec_reach_up up]
  simp only [made]
  rw [exec_bind, exec_write]
  cases fault with
  | none => rfl
  | some fault => cases fault <;> rfl

/-- A document that the store refuses is not inserted, and the insertion fails. -/
theorem exec_insert_of_fault (collection : Collection) (up : s.down = false) {document : Document} {fault : StoreFault}
    (unfit : document.admissionFault? = some fault) :
    exec (insert collection document) s = (.error (.store fault), s) := by
  have made := Table.insert_of_fault collection.uniqueKeys (s.store.table collection) unfit
  have inserted := exec_insert collection up made
  rw [Store.setTable_table] at inserted
  cases fault with
  | keyTaken => exact absurd unfit document.admissionFault?_ne_keyTaken
  | _ => exact inserted

/-- A document that has a key of another one is not inserted, and the insertion tells so. -/
theorem exec_insert_taken (collection : Collection) (up : s.down = false) {document : Document}
    (made : (s.store.table collection).insert collection.uniqueKeys document =
      ⟨s.store.table collection, some .keyTaken⟩) :
    exec (insert collection document) s = (.ok false, s) := by
  have inserted := exec_insert collection up made
  rwa [Store.setTable_table] at inserted

/-- A document whose keys are texts and that was inserted stands behind all others, with keys that are free. -/
theorem of_exec_insert {s' : ServiceState} {document : Document}
    (texts : Table.HasTexts document.kept collection.uniqueKeys)
    (made : exec (insert collection document) s = (.ok true, s')) :
    s.down = false ∧ Table.KeysFree (s.store.table collection ++ [document.kept]) document.kept collection.uniqueKeys ∧
      s' = { s with store := s.store.setTable collection (s.store.table collection ++ [document.kept]) } := by
  rcases Bool.eq_false_or_eq_true s.down with down | up
  · rw [exec_insert_down down] at made
    cases made
  · cases admitted : document.admissionFault? with
    | some fault =>
        rw [exec_insert_of_fault collection up admitted] at made
        cases made
    | none =>
        rcases Table.insert_cases (s.store.table collection) admitted texts with ⟨-, taken⟩ | ⟨free, grown⟩
        · rw [exec_insert_taken collection up taken] at made
          cases made
        · rw [exec_insert collection up grown] at made
          exact ⟨up, free, (Prod.mk.inj made).2.symm⟩

theorem exec_change_changed (up : s.down = false) {alteration : Change} {before after : Document}
    {table : Table}
    (made : (s.store.table collection).updateFirst collection.uniqueKeys query alteration =
      .ok (.changed before after table)) :
    exec (change collection query alteration) s =
      (.ok (some (before, after)), { s with store := s.store.setTable collection table }) := by
  rw [change, exec_bind, exec_reach_up up]
  simp only [made]
  rfl

theorem exec_change_unmet (up : s.down = false) {alteration : Change}
    (made : (s.store.table collection).updateFirst collection.uniqueKeys query alteration =
      .ok .unmet) :
    exec (change collection query alteration) s = (.ok none, s) := by
  rw [change, exec_bind, exec_reach_up up]
  simp only [made]
  rfl

theorem exec_change_refused (up : s.down = false) {alteration : Change} {fault : StoreFault}
    {table : Table}
    (made : (s.store.table collection).updateFirst collection.uniqueKeys query alteration =
      .ok (.refused fault table)) :
    exec (change collection query alteration) s =
      (.error (.store fault), { s with store := s.store.setTable collection table }) := by
  rw [change, exec_bind, exec_reach_up up]
  simp only [made]
  rfl

theorem exec_update_changed (up : s.down = false) {alteration : Change} {before after : Document}
    {table : Table}
    (made : (s.store.table collection).updateFirst collection.uniqueKeys query alteration =
      .ok (.changed before after table)) :
    exec (update collection query alteration) s =
      (.ok (some after), { s with store := s.store.setTable collection table }) := by
  rw [update, exec_bind_ok (exec_change_changed up made)]
  rfl

theorem exec_update_refused (collection : Collection) (up : s.down = false) {alteration : Change} {fault : StoreFault}
    {table : Table}
    (made : (s.store.table collection).updateFirst collection.uniqueKeys query alteration =
      .ok (.refused fault table)) :
    exec (update collection query alteration) s =
      (.error (.store fault), { s with store := s.store.setTable collection table }) :=
  exec_bind_error (exec_change_refused up made) _

theorem exec_update_unmet (collection : Collection) (up : s.down = false) {alteration : Change}
    (made : (s.store.table collection).updateFirst collection.uniqueKeys query alteration =
      .ok .unmet) :
    exec (update collection query alteration) s = (.ok none, s) := by
  rw [update, exec_bind_ok (exec_change_unmet up made)]
  rfl

/-! ### What all documents of a table keep -/

section Documents

variable {P : Document → Prop}

/-- What all documents have and the inserted one has, too, they have after an insertion. -/
theorem all_exec_insert (collection : Collection) {document : Document}
    (all : ∀ other ∈ s.store.table collection, P other)
    (kept : document.admissionFault? = none → P document.kept) :
    ∀ other ∈ (exec (insert collection document) s).2.store.table collection, P other := by
  rcases Bool.eq_false_or_eq_true s.down with down | up
  · rw [exec_insert_down down]
    exact all
  · rw [exec_insert _ up rfl, Store.table_setTable_self]
    intro other member
    rcases Table.mem_of_mem_insert member with old | ⟨admitted, rfl⟩
    · exact all other old
    · exact kept admitted

/-- What all documents have and a change of one keeps they have afterwards, however far the change came. -/
theorem all_exec_change (collection : Collection) {alteration : Change}
    (all : ∀ other ∈ s.store.table collection, P other)
    (kept : ∀ document, P document → P (alteration document).document) :
    ∀ other ∈ (exec (change collection query alteration) s).2.store.table collection, P other := by
  rcases Bool.eq_false_or_eq_true s.down with down | up
  · rw [exec_change_down down]
    exact all
  · rw [change, exec_bind_ok (exec_reach_up up)]
    cases made : (s.store.table collection).updateFirst collection.uniqueKeys query alteration with
    | error fault => exact all
    | ok outcome =>
        have after := Table.updateFirst_keeps kept all made
        cases outcome with
        | unmet => exact all
        | changed before changed table =>
            change ∀ other ∈ (s.store.setTable collection table).table collection, P other
            rw [Store.table_setTable_self]
            exact after
        | refused fault table =>
            change ∀ other ∈ (s.store.setTable collection table).table collection, P other
            rw [Store.table_setTable_self]
            exact after

end Documents

end Countersign.Service
