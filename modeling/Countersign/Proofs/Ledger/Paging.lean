/-
Module: Countersign.Proofs.Ledger.Paging
Purpose: What a page of the requests that are asked for is, and what is counted of them.
Main exports: Selection, Selection.admits, Request.ListedFrom, Request.newerFirst, RequestStore.exec_list,
  RequestStore.page_of_nat, RequestStore.flatMap_page, RequestStore.exec_statistics
-/
import Countersign.Approval.Submission
import Countersign.Proofs.Ledger.Trail
import Mathlib.Algebra.GroupWithZero.Nat

namespace Countersign

open Service

/-!
Requests are listed by a query, a stable sort and a slice. The query tells of a document what a test tells of the
request in it, and the sort goes by the time at which that request was created; so a page is a slice of the sorted
requests that pass the test, and what is counted is how many of them there are.
-/

/-- What may be asked of requests: where they stand, a role that must approve them, a part of the names of their rules
in any case, and their ticket. A text that is empty asks for nothing. -/
structure Selection where
  status : Option ApprovalStatus := none
  role : Option String := none
  rule : Option String := none
  ticketId : Option String := none

namespace Selection

/-- The filter that asks for it. -/
def filter (selection : Selection) : RequestStore.RequestFilter where
  status := selection.status
  role := .ofText? selection.role
  rule := .ofText? selection.rule
  ticketId := .ofText? selection.ticketId

/-- Whether a text that may be asked for passes a test. -/
def passes (wanted : Option String) (test : String → Bool) : Bool := wanted.all fun s => s.isEmpty || test s

/-- Whether a request is as it is asked for. -/
def admits (selection : Selection) (request : Request) : Bool :=
  selection.status.all (request.status == ·)
    && (passes selection.role (request.approvers.contains ·)
      && (passes selection.rule (Text.containsCaseless request.ruleTriggered ·)
        && passes selection.ticketId (request.ticketId == ·)))

end Selection

namespace Request

/-- A document from which a request is listed. -/
structure ListedFrom (request : Request) (document : Document) : Prop where
  reads : Request.check document = .accepted request
  status : Fields.get? document "status" = some (.text request.status.name)
  createdAt : Fields.get? document "created_at" = some (.moment request.createdAt)

/-- Whether one request may stand in front of another in a list: it is not older. -/
def newerFirst (first second : Request) : Bool := second.createdAt.utc ≤ first.createdAt.utc

theorem newerFirst_trans (first second third : Request) (one : first.newerFirst second = true)
    (two : second.newerFirst third = true) : first.newerFirst third = true := by
  simp only [newerFirst, decide_eq_true_eq] at *
  omega

theorem newerFirst_total (first second : Request) : (first.newerFirst second || second.newerFirst first) = true := by
  simp only [newerFirst, Bool.or_eq_true, decide_eq_true_eq]
  omega

namespace ListedFrom

variable {request : Request} {document : Document}

theorem ticketId (listed : request.ListedFrom document) :
    Fields.get? document "ticket_id" = some (.text request.ticketId) :=
  Fields.required_text_iff.1 (Request.check_eq_accepted_iff.1 listed.reads).2.1

theorem approvers (listed : request.ListedFrom document) :
    Fields.get? document "required_approvers" = some (.ofTexts request.approvers) := by
  obtain ⟨-, -, approvers, -⟩ := Request.check_eq_accepted_iff.1 listed.reads
  obtain ⟨v, known, read⟩ := Fields.required_eq_accepted_iff.1 approvers
  rw [known, (Reader.items_eq_accepted_iff_of_exact fun _ _ => Reader.text_eq_accepted_iff).1
    (Reader.someItems_eq_accepted_iff.1 read).1]
  rfl

theorem ruleTriggered (listed : request.ListedFrom document) :
    Fields.get? document "rule_triggered" = some (.text request.ruleTriggered) :=
  Fields.required_text_iff.1 (Request.check_eq_accepted_iff.1 listed.reads).2.2.2.1

end ListedFrom

end Request

/-! ### Pages of a list -/

namespace RequestStore

/-- What follows so many items, and no more of it than so many. -/
theorem page_of_nat {α : Type} (skip : Nat) {size : Nat} (some : 0 < size) (items : List α) :
    page (skip : Int) (size : Int) items = (items.drop skip).take size := by
  have sized : (size : Int) ≠ 0 := by omega
  simp only [page, Int.natCast_nonneg, if_true, Int.toNat_natCast, if_neg sized, Int.natAbs_natCast]

/-- Without a bound the first page has everything. -/
theorem page_whole {α : Type} (items : List α) : page 0 0 items = items := by simp [page]

/-- Pages that follow each other have the front of the list. -/
theorem flatMap_page {α : Type} {size : Nat} (some : 0 < size) (items : List α) (count : Nat) :
    ((List.range count).flatMap fun index => page ((index * size : Nat) : Int) (size : Int) items) =
      items.take (count * size) := by
  induction count with
  | zero => simp
  | succ count ih =>
      rw [List.range_succ, List.flatMap_append, ih, List.flatMap_singleton, page_of_nat _ some, Nat.succ_mul,
        List.take_add]

/-- A page is empty where the pages in front of it have all items. -/
theorem page_eq_nil_iff {α : Type} {size : Nat} (some : 0 < size) (items : List α) (index : Nat) :
    page ((index * size : Nat) : Int) (size : Int) items = [] ↔ items.length ≤ index * size := by
  rw [page_of_nat _ some, List.take_eq_nil_iff, List.drop_eq_nil_iff]
  omega

/-! ### What the query tells -/

variable {request : Request} {document : Document}

theorem decides_given (name : String) (wanted : Option String) :
    (given name (.ofText? wanted)).Decides fun document =>
      Selection.passes wanted fun s => document.meets name (.text s) := by
  intro document
  cases wanted with
  | none => rfl
  | some s =>
      cases empty : s.isEmpty with
      | true => simp [given, Value.ofText?, Value.truthy, empty, Query.all, Selection.passes]
      | false => simp [given, Value.ofText?, Value.truthy, empty, Query.field_text, Selection.passes]

theorem mentioning_eq (wanted : Option String) :
    ∃ query, mentioning (.ofText? wanted) = .ok query ∧ query.Decides fun document =>
      Selection.passes wanted fun s => mentions s (Fields.getD document "rule_triggered") := by
  cases wanted with
  | none => exact ⟨Query.all, rfl, fun _ => rfl⟩
  | some s => exact ⟨_, rfl, fun _ => rfl⟩

theorem decides_status (wanted : Option ApprovalStatus) :
    Query.Decides (match wanted with
      | some status => Query.field "status" (.text status.name)
      | none => Query.all) fun document => wanted.all fun status => document.meets "status" (.text status.name) := by
  cases wanted with
  | none => exact fun _ => rfl
  | some status => exact Query.decides_text _ _

/-- The test that the query of a selection makes on documents. -/
def meetsSelection (selection : Selection) (document : Document) : Bool :=
  selection.status.all (fun status => document.meets "status" (.text status.name))
    && (Selection.passes selection.role (fun s => document.meets "required_approvers" (.text s))
      && (Selection.passes selection.rule (fun s => mentions s (Fields.getD document "rule_triggered"))
        && Selection.passes selection.ticketId (fun s => document.meets "ticket_id" (.text s))))

/-- A selection is asked for by a query that never fails. -/
theorem query_eq (selection : Selection) :
    ∃ query, selection.filter.query = .ok query ∧ query.Decides (meetsSelection selection) := by
  obtain ⟨mentions, made, told⟩ := mentioning_eq selection.rule
  refine ⟨_, by rw [RequestFilter.query, Selection.filter, made]; rfl, ?_⟩
  exact (decides_status selection.status).both
    ((decides_given _ selection.role).both (told.both (decides_given _ selection.ticketId)))

theorem name_injective {first second : ApprovalStatus} (same : first.name = second.name) : first = second := by
  cases first <;> cases second <;> first | rfl | exact absurd same (by decide)

theorem meets_status (listed : request.ListedFrom document) (status : ApprovalStatus) :
    document.meets "status" (.text status.name) = (request.status == status) := by
  rw [Document.meets, Fields.getD, listed.status, Option.getD_some, Value.meets_text, Bool.eq_iff_iff, beq_iff_eq,
    beq_iff_eq]
  exact ⟨name_injective, congrArg _⟩

/-- A list of texts meets each of them. -/
theorem meets_ofTexts (names : List String) (s : String) :
    (Value.ofTexts names).meets (.text s) = names.contains s := by
  have apart : (Value.list (names.map .text)).same (.text s) = false := rfl
  rw [Value.ofTexts, Value.meets, apart, Bool.false_or]
  simp only [List.any_map]
  rw [List.contains_eq_any_beq]
  congr 1
  funext name
  exact Bool.beq_comm

/-- Of a document from which a request is listed, the query tells whether the request is asked for. -/
theorem meetsSelection_eq (selection : Selection) (listed : request.ListedFrom document) :
    meetsSelection selection document = selection.admits request := by
  simp only [meetsSelection, Selection.admits, meets_status listed]
  simp only [Document.meets, Fields.getD, listed.approvers, listed.ruleTriggered, listed.ticketId, Option.getD_some,
    meets_ofTexts, mentions, Value.meets_text]

/-- Documents are sorted as the requests are that are listed from them. -/
theorem newerFirst_listed {first second : Request} {other : Document} (one : first.ListedFrom document)
    (two : second.ListedFrom other) :
    Document.noLaterThan [⟨"created_at", true⟩] document other = first.newerFirst second := by
  simp only [Document.noLaterThan, Document.precedesBy, Fields.getD, one.createdAt, two.createdAt, Option.getD_some,
    if_true, Document.valuePrecedes_moment, Request.newerFirst, decide_eq_true_eq]
  grind

/-! ### What is answered -/

variable {s : ServiceState} {requests : List Request} {documents : List Document}

theorem related_page (related : List.Forall₂ Request.ListedFrom requests documents) (skip size : Int) :
    List.Forall₂ Request.ListedFrom (page skip size requests) (page skip size documents) := by
  simp only [page, related.length_eq]
  split_ifs
  · exact List.forall₂_drop _ related
  · exact List.forall₂_drop _ related
  · exact List.forall₂_take _ (List.forall₂_drop _ related)
  · exact List.forall₂_take _ (List.forall₂_drop _ related)

/-- All documents from which requests are listed are read. -/
theorem exec_readAll (related : List.Forall₂ Request.ListedFrom requests documents) :
    exec (readAll documents) s = (.ok requests, s) := by
  induction related with
  | nil => rfl
  | cons here _ ih => simp only [readAll, here.reads, exec_bind, exec_accept_accepted, ih, exec_pure]

/-- The requests that are as they are asked for, newest first. -/
def listed (selection : Selection) (requests : List Request) : List Request :=
  (requests.filter selection.admits).mergeSort Request.newerFirst

/-- A page of what is asked for is a page of the requests that are as they are asked for, newest first. -/
theorem exec_list (up : s.down = false) (related : List.Forall₂ Request.ListedFrom requests s.store.requests)
    (selection : Selection) (skip size : Int) :
    exec (list selection.filter skip size) s = (.ok (page skip size (listed selection requests)), s) := by
  obtain ⟨query, asked, decides⟩ := query_eq selection
  have selected := Table.select_eq decides s.store.requests [⟨"created_at", true⟩]
  have sorted := related_mergeSort (related_filter related (meetsSelection_eq selection)) newerFirst_listed
  simp only [list, asked]
  rw [exec_bind, exec_select .requests up selected]
  exact exec_readAll (related_page sorted skip size)

/-- As many requests stand in a status as are counted. -/
theorem exec_countIn (up : s.down = false) (related : List.Forall₂ Request.ListedFrom requests s.store.requests)
    (statuses : List ApprovalStatus) :
    exec (countIn statuses) s =
      (.ok (statuses.map fun status => (status, requests.countP (·.status == status))), s) := by
  induction statuses with
  | nil => rfl
  | cons status rest ih =>
      have matching := related_filter related fun here => meets_status here status
      have found : (s.store.table .requests).filter (Query.field "status" (.text status.name)) = .ok
          (List.filter (fun document => Document.meets document "status" (.text status.name)) s.store.requests) :=
        Table.filter_eq (Query.decides_text _ _) s.store.requests
      have counted : exec (count .requests (Query.field "status" (.text status.name))) s =
          (.ok (requests.countP (·.status == status)), s) := by
        rw [count, exec_bind_ok (exec_reach_up up), found, List.countP_eq_length_filter, matching.length_eq]
        rfl
      rw [countIn, exec_bind_ok counted, exec_bind_ok ih, exec_pure, List.map_cons]

/-- So many requests as are asked for by a status alone stand in it. -/
theorem length_listed_status (requests : List Request) (status : ApprovalStatus) :
    (listed { status := some status } requests).length = requests.countP (·.status == status) := by
  rw [listed, List.length_mergeSort, List.countP_eq_length_filter]
  refine congrArg List.length (List.filter_congr fun request _ => ?_)
  simp [Selection.admits, Selection.passes]

/-- Every request stands in one status. -/
theorem sum_countP_status (requests : List Request) :
    (ApprovalStatus.all.map fun status => requests.countP (·.status == status)).sum = requests.length := by
  induction requests with
  | nil => rfl
  | cons request rest ih =>
      rw [List.length_cons, ← ih]
      simp only [ApprovalStatus.all, List.map_cons, List.map_nil, List.sum_cons, List.sum_nil, List.countP_cons]
      cases request.status <;> simp <;> omega

/-- The statistics count the requests in all, and in each status those that are listed for it. -/
theorem exec_statistics (up : s.down = false)
    (related : List.Forall₂ Request.ListedFrom requests s.store.requests) :
    exec Approval.statistics s =
      (.ok (.record [("total", .int requests.length),
        ("by_status", .record (ApprovalStatus.all.map fun status =>
          (status.name, .int (listed { status := some status } requests).length)))]), s) := by
  have total (counts : List (ApprovalStatus × Nat)) (start : Nat) :
      counts.foldl (fun total count => total + count.2) start = start + (counts.map (·.2)).sum := by
    induction counts generalizing start with
    | nil => rfl
    | cons count rest ih => rw [List.foldl_cons, ih, List.map_cons, List.sum_cons, Nat.add_assoc]
  rw [Approval.statistics, countByStatus, exec_bind_ok (exec_countIn up related _), exec_pure]
  change (Except.ok (Value.record [("total",
    .int (List.foldl (fun total (count : ApprovalStatus × Nat) => total + count.2) 0 _ : Nat)), _]), s) = _
  simp only [total, List.map_map, Function.comp_def, sum_countP_status, length_listed_status, Nat.zero_add]

/-! ### In which order requests are listed -/

theorem listed_perm (selection : Selection) (requests : List Request) :
    (listed selection requests).Perm (requests.filter selection.admits) := List.mergeSort_perm _ _

theorem listed_pairwise (selection : Selection) (requests : List Request) :
    (listed selection requests).Pairwise fun first second => second.createdAt.utc ≤ first.createdAt.utc :=
  (List.pairwise_mergeSort Request.newerFirst_trans Request.newerFirst_total _).imp fun ordered => by
    simpa [Request.newerFirst] using ordered

/-- Requests that were created at the same time are listed in the order in which they stand in the store. -/
theorem filter_listed (selection : Selection) (requests : List Request) (time : Int) :
    (listed selection requests).filter (·.createdAt.utc == time) =
      (requests.filter selection.admits).filter (·.createdAt.utc == time) := by
  have together : ((requests.filter selection.admits).filter (·.createdAt.utc == time)).Pairwise
      fun first second => first.newerFirst second = true := by
    refine List.Pairwise.imp_of_mem ?_ (List.pairwise_of_forall (R := fun _ _ => True) fun _ _ => trivial)
    intro first second one two _
    have early := beq_iff_eq.1 (List.mem_filter.1 one).2
    have late := beq_iff_eq.1 (List.mem_filter.1 two).2
    simp [Request.newerFirst, early, late]
  have kept := (List.sublist_mergeSort Request.newerFirst_trans Request.newerFirst_total together
    List.filter_sublist).filter (·.createdAt.utc == time)
  rw [List.filter_filter] at kept
  simp only [Bool.and_self] at kept
  exact (kept.eq_of_length (((listed_perm selection requests).filter _).length_eq).symm).symm

end RequestStore

end Countersign
