/-
Module: Countersign.Proofs.Ledger.Trail
Purpose: The actions of the ledger, and what reading the trail of a request answers.
Main exports: Action.kept, Action.kept_shownBy, Action.noLaterThan, Ledger.append, Ledger.trailOf,
  Ledger.history, Trail.exec_listFor
-/
import Countersign.Approval.Trail
import Countersign.Proofs.Ledger.Basic
import Countersign.Proofs.Service.Calls

namespace Countersign

open Service

/-!
The trail of a request is what the ledger has of its actions, in the order in which they were recorded. It is
read in the order of their places and then of their times, which is another order when two callers gave out
the same place.
-/

namespace Action

/-- The action as the store keeps it. -/
def kept (action : Action) : Action := { action with createdAt := action.createdAt.stored }

/-- Whether one action is read before another, or may be. -/
def noLaterThan (first second : Action) : Bool :=
  first.sequence < second.sequence ||
    (first.sequence == second.sequence && first.createdAt.utc ≤ second.createdAt.utc)

/-- An action that has a place is read from its fields. -/
theorem check_fields {action : Action} (placed : 1 ≤ action.sequence) :
    Action.check action.fields = .accepted action := by
  refine check_eq_accepted_iff.2 ⟨rfl, rfl, rfl, ?_, ?_, ?_, rfl, rfl⟩
  · exact Fields.required_eq_accepted_iff.2 ⟨_, rfl, Reader.choice_decision _⟩
  · apply (Fields.optional_of_get? (v := .ofText? action.comment) rfl).2
    cases action.comment <;> rfl
  · refine Fields.required_eq_accepted_iff.2 ⟨.int action.sequence, rfl, ?_⟩
    simp [Reader.boundedInt, Reader.int, Int.not_lt.2 placed]

/-- The store keeps an action with its place and its time. -/
theorem kept_shownBy (action : Action) (placed : 1 ≤ action.sequence) :
    action.kept.ShownBy (Document.kept action.document) := by
  have read {name : String} {v : Value} (known : Fields.get? action.document name = some v) :
      Fields.get? (Document.kept action.document) name = some v.stored := by
    rw [Document.kept, Fields.get?_storedFields, known]
    rfl
  have readText {name t : String} (known : Fields.get? action.document name = some (.text t)) :
      Fields.get? (Document.kept action.document) name = some (.text t) := read known
  have comment : Fields.get? (Document.kept action.document) "comment" =
      some (.ofText? action.comment) := by
    rw [read (v := .ofText? action.comment) (by simp [document, fields])]
    cases action.comment <;> rfl
  have sequence : Fields.get? (Document.kept action.document) "sequence" =
      some (.int action.sequence) :=
    read (v := .int action.sequence) (by simp [document, fields])
  have createdAt : Fields.get? (Document.kept action.document) "created_at" =
      some (.moment action.createdAt.stored) :=
    read (v := .moment action.createdAt) (by simp [document, fields])
  refine ⟨Action.check_eq_accepted_iff.2 ⟨?_, ?_, ?_, ?_, ?_, ?_, ?_, ?_⟩, ?_, sequence, createdAt⟩
  · exact Fields.required_text_iff.2 (readText (by simp [document, fields, kept]))
  · exact Fields.required_text_iff.2 (readText (by simp [document, fields, kept]))
  · exact Fields.required_text_iff.2 (readText (by simp [document, fields, kept]))
  · exact Fields.required_eq_accepted_iff.2 ⟨.text action.decision.name,
      readText (by simp [document, fields]), Reader.choice_decision _⟩
  · apply (Fields.optional_of_get? comment).2
    cases given : action.comment <;>
      simp [Value.ofText?, Reader.nullable, Reader.text, kept, given]
  · refine Fields.required_eq_accepted_iff.2 ⟨_, sequence, ?_⟩
    simp [Reader.boundedInt, Reader.int, kept, Int.not_lt.2 placed]
  · exact Fields.required_text_iff.2 (readText (by simp [document, fields, kept]))
  · exact Fields.required_eq_accepted_iff.2 ⟨_, createdAt, rfl⟩
  · exact readText (by simp [document, fields, kept])

end Action

namespace Ledger

/-- Put an action at the end of the trail. -/
def append (ledger : Ledger) (action : Action) : Ledger :=
  { ledger with actions := ledger.actions ++ [action] }

/-- The actions on a request in the order in which they were recorded. -/
def trailOf (ledger : Ledger) (id : String) : List Action :=
  ledger.actions.filter fun action => action.requestId == id

/-- The actions on a request in the order in which they are read. -/
def history (ledger : Ledger) (id : String) : List Action :=
  (ledger.trailOf id).mergeSort Action.noLaterThan

theorem mem_trailOf {ledger : Ledger} {id : String} {action : Action} :
    action ∈ ledger.trailOf id ↔ action ∈ ledger.actions ∧ action.requestId = id := by
  simp [trailOf]

/-- What is read of a request is its trail in some order. -/
theorem history_perm (ledger : Ledger) (id : String) : (ledger.history id).Perm (ledger.trailOf id) :=
  List.mergeSort_perm _ _

theorem mem_history {ledger : Ledger} {id : String} {action : Action} :
    action ∈ ledger.history id ↔ action ∈ ledger.actions ∧ action.requestId = id :=
  (ledger.history_perm id).mem_iff.trans mem_trailOf

end Ledger

/-! ### Entries and documents, filtered and sorted -/

section Related

variable {α : Type} {shows : α → Document → Prop} {entries : List α} {documents : List Document}

/-- Tests that agree keep entries together with their documents. -/
theorem related_filter (related : List.Forall₂ shows entries documents) {keeps : α → Bool}
    {test : Document → Bool} (agree : ∀ {a document}, shows a document → test document = keeps a) :
    List.Forall₂ shows (entries.filter keeps) (documents.filter test) := by
  induction related with
  | nil => exact .nil
  | @cons a document _ _ here _ ih =>
      simp only [List.filter_cons, agree here]
      split
      · exact .cons here ih
      · exact ih

/-- Orders that agree sort entries together with their documents. -/
theorem related_mergeSort (related : List.Forall₂ shows entries documents) {le : α → α → Bool}
    {order : Document → Document → Bool}
    (agree : ∀ {a b document other}, shows a document → shows b other →
      order document other = le a b) :
    List.Forall₂ shows (entries.mergeSort le) (documents.mergeSort order) := by
  obtain ⟨sameLength, pairwise⟩ := List.forall₂_iff_zip.1 related
  let sorted := (entries.zip documents).mergeSort fun p q => le p.1 q.1
  have fronts : sorted.map Prod.fst = entries.mergeSort le := by
    rw [List.map_mergeSort (s := le) fun _ _ _ _ => rfl, List.map_fst_zip (by omega)]
  have backs : sorted.map Prod.snd = documents.mergeSort order := by
    rw [List.map_mergeSort (s := order) fun p here q there =>
      (agree (pairwise here) (pairwise there)).symm, List.map_snd_zip (by omega)]
  rw [← fronts, ← backs, List.forall₂_map_left_iff, List.forall₂_map_right_iff]
  apply List.forall₂_same.2
  intro p within
  exact pairwise ((List.mergeSort_perm _ _).mem_iff.1 within)

end Related

namespace Trail

variable {ledger : Ledger} {s : ServiceState}

/-! ### Reading -/

/-- All documents that keep actions are read. -/
theorem exec_readAll {actions : List Action} {documents : List Document}
    (related : List.Forall₂ Action.ShownBy actions documents) :
    exec (readAll documents) s = (.ok actions, s) := by
  induction related with
  | nil => rfl
  | cons here _ ih => simp only [readAll, here.reads, exec_bind, exec_accept_accepted, ih, exec_pure]

/-- Documents of actions are sorted as their actions are. -/
theorem noLaterThan_shown {first second : Action} {document other : Document}
    (one : first.ShownBy document) (two : second.ShownBy other) :
    Document.noLaterThan [⟨"sequence", false⟩, ⟨"created_at", false⟩] document other =
      first.noLaterThan second := by
  simp only [Document.noLaterThan, Document.precedesBy, Fields.getD, one.sequence, two.sequence,
    one.createdAt, two.createdAt, Option.getD_some, Bool.false_eq_true, if_false,
    Document.valuePrecedes_int, Document.valuePrecedes_moment, Action.noLaterThan, decide_eq_true_eq]
  rcases Int.lt_trichotomy first.sequence second.sequence with less | same | more
  · simp [less]
  · rcases Int.lt_trichotomy first.createdAt.utc second.createdAt.utc with early | together | late
    · simp [same, early, Int.le_of_lt early]
    · simp [same, together]
    · simp [same, late, Int.not_lt.2 (Int.le_of_lt late), Int.not_le.2 late]
  · simp [more, Int.not_lt.2 (Int.le_of_lt more), Int.ne_of_gt more]

/-- The stored documents that name a request. -/
def documentsOf (store : Store) (id : String) : List Document :=
  List.filter (fun document => Document.meets document "approval_request_id" (.text id)) store.actions

/-- They keep the trail of the request. -/
theorem related_trailOf {store : Store} (shown : ledger.ShownBy store) (id : String) :
    List.Forall₂ Action.ShownBy (ledger.trailOf id) (documentsOf store id) := by
  refine related_filter shown.actions fun here => ?_
  simp only [Document.meets, Fields.getD, here.requestId, Option.getD_some, Value.meets_text]

/-- The trail of a request is read as the ledger has it. -/
theorem exec_listFor (up : s.down = false) (shown : ledger.ShownBy s.store) (id : String) :
    exec (listFor (.text id)) s = (.ok (ledger.history id), s) := by
  have related : List.Forall₂ Action.ShownBy (ledger.history id) ((documentsOf s.store id).mergeSort
      (Document.noLaterThan [⟨"sequence", false⟩, ⟨"created_at", false⟩])) :=
    related_mergeSort (related_trailOf shown id) noLaterThan_shown
  have selected := Table.select_eq (Query.decides_text "approval_request_id" id) s.store.actions
    [⟨"sequence", false⟩, ⟨"created_at", false⟩]
  rw [listFor, exec_bind, exec_select .actions up selected]
  exact exec_readAll related

theorem exec_listFor_down (down : s.down = true) (id : Value) :
    exec (listFor id) s = (.error .storeDown, s) := by
  rw [listFor, exec_bind_error (exec_select_down down _)]

end Trail

end Countersign
