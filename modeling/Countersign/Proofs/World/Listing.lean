/-
Module: Countersign.Proofs.World.Listing
Purpose: Pages of requests lose and repeat nothing, and the statistics count what is listed.
Main exports: World.requests, World.Runs.dated, World.Runs.listed, World.pages_complete
-/
import Countersign.Proofs.Commands.Dates
import Countersign.Proofs.Ledger.Paging
import Countersign.Proofs.World.Invariant

namespace Countersign

open Service

/-!
In every world that is reached each document of a request is read, and the request is sorted by the time that it was
opened at. So whatever is asked for, the pages are slices of one list, which has each request that is stored and asked
for at one place.
-/

namespace World

variable {environment : Session.Environment} {order : Order} {w w' : World} {event : Event}

/-- The requests that the store keeps, in the order in which they were put in. -/
def requests (w : World) : List Request :=
  w.state.store.requests.filterMap fun document =>
    match Request.check document with
    | .accepted request => some request
    | .refused _ => none

/-- No event lets a request forget when it was opened. -/
theorem take_dated (taken : w.take environment event = some w') (dated : w.state.Dated) : w'.state.Dated := by
  cases becomes_of_take taken with
  | command command =>
      exact Session.Step.keeps ServiceState.Dated.keptByAuthors ServiceState.Dated.keptByRouting command
        environment w.state dated
  | shift around => exact dated
  | submit => exact dated
  | @advance index call phase s here ran =>
      have kept := Phase.step_keeps ServiceState.Dated.keptBySubmitting call.submission call.phase w.state dated
      rw [ran] at kept
      exact kept
  | cut here point => exact dated

theorem Runs.dated (reached : Runs environment order start w) : w.state.Dated := by
  induction reached with
  | stay => exact fun _ member => by cases member
  | next before event allowed taken ih => exact take_dated taken ih

/-- A document of a request that tells by a moment when it was created tells what was read. -/
theorem listedFrom_of_shownBy {holding : Holding} {document : Document} (shown : holding.ShownBy document)
    (dated : document.IsDated) : holding.request.ListedFrom document := by
  obtain ⟨time, known⟩ := dated
  obtain ⟨-, -, -, -, -, -, -, createdAt, -, -⟩ := Request.check_eq_accepted_iff.1 shown.reads
  obtain ⟨v, found, read⟩ := Fields.required_eq_accepted_iff.1 createdAt
  rw [known] at found
  obtain rfl := Option.some.inj found
  exact ⟨shown.reads, shown.status, by rw [known, Checked.accepted.inj read]⟩

/-- In every world that is reached each document of a request is one from which a request is listed. -/
theorem Runs.listed (reached : Runs environment order start w) :
    List.Forall₂ Request.ListedFrom w.requests w.state.store.requests := by
  obtain ⟨ledger, holds, -⟩ := reached.holds holds_start
  have related := holds.shown.requests
  have dated := reached.dated
  rw [ServiceState.Dated] at dated
  rw [requests]
  generalize ledger.requests = entries, w.state.store.requests = documents at related dated ⊢
  induction related with
  | nil => exact .nil
  | @cons holding document _ _ here _ ih =>
      obtain ⟨first, others⟩ := List.forall_mem_cons.1 dated
      have listed := listedFrom_of_shownBy here first
      rw [List.filterMap_cons, listed.reads]
      exact .cons listed (ih others)

/-- The requests that are listed are those of the ledger. -/
theorem Holds.requests_eq {ledger : Ledger} (holds : w.Holds ledger) :
    w.requests = ledger.requests.map (·.request) := by
  have related := holds.shown.requests
  rw [requests]
  generalize ledger.requests = entries, w.state.store.requests = documents at related ⊢
  induction related with
  | nil => rfl
  | cons here _ ih => rw [List.filterMap_cons, here.reads, List.map_cons, ih]

/-- No two of them are the same. -/
theorem Runs.requests_nodup (reached : Runs environment order start w) : w.requests.Nodup := by
  obtain ⟨ledger, holds, -⟩ := reached.holds holds_start
  refine List.Nodup.of_map Request.id ?_
  rw [holds.requests_eq, List.map_map]
  exact holds.sound.requestIds

/-- In every world that is reached, and for whatever is asked of requests, the pages of a size, one after the other until
one is empty, are the whole list. That list has each request that is stored and asked for once, the newest first, and
those that were created at the same time in the order in which they were put in. The statistics count in each status
what is listed for that status alone, and in all the documents of requests. -/
theorem pages_complete (reached : Runs environment order start w) (selection : Selection) {size : Nat}
    (filled : 1 ≤ size) :
    ∃ (all : List Request) (pages : Nat → List Request) (last : Nat) (lists : ApprovalStatus → List Request),
      exec (RequestStore.list selection.filter 0 0) w.reachable = (.ok all, w.reachable) ∧
      (∀ index : Nat, exec (RequestStore.list selection.filter ((index * size : Nat) : Int) (size : Int)) w.reachable =
        (.ok (pages index), w.reachable)) ∧
      (∀ index, pages index = [] ↔ last ≤ index) ∧ (List.range last).flatMap pages = all ∧
      List.Forall₂ Request.ListedFrom w.requests w.state.store.requests ∧
      all.Nodup ∧ (∀ request, request ∈ all ↔ w.Stores request ∧ selection.admits request = true) ∧
      all.Pairwise (fun first second => second.createdAt.utc ≤ first.createdAt.utc) ∧
      (∀ time, all.filter (·.createdAt.utc == time) =
        (w.requests.filter selection.admits).filter (·.createdAt.utc == time)) ∧
      (∀ status, exec (RequestStore.list { status := some status } 0 0) w.reachable =
        (.ok (lists status), w.reachable)) ∧
      exec Approval.statistics w.reachable =
        (.ok (.record [("total", .int w.state.store.requests.length),
          ("by_status", .record (ApprovalStatus.all.map fun status => (status.name, .int (lists status).length)))]),
          w.reachable) := by
  have related := reached.listed
  let all := RequestStore.listed selection w.requests
  have pageAt (selection : Selection) (skip size : Int) :=
    RequestStore.exec_list (s := w.reachable) rfl related selection skip size
  have covered (index : Nat) : all.length ≤ index * size ↔ (all.length + (size - 1)) / size ≤ index := by
    rw [Nat.div_le_iff_le_mul_add_pred filled, Nat.mul_comm size index]
    omega
  refine ⟨all, fun index => RequestStore.page ((index * size : Nat) : Int) (size : Int) all,
    (all.length + (size - 1)) / size, fun status => RequestStore.listed { status := some status } w.requests,
    ?_, fun index => pageAt selection _ _, fun index => ?_, ?_, related, ?_, fun request => ?_,
    RequestStore.listed_pairwise selection _, RequestStore.filter_listed selection _, fun status => ?_, ?_⟩
  · rw [pageAt, RequestStore.page_whole]
  · rw [RequestStore.page_eq_nil_iff filled, covered]
  · rw [RequestStore.flatMap_page filled]
    exact List.take_of_length_le ((covered _).2 (Nat.le_refl _))
  · exact (RequestStore.listed_perm selection _).nodup_iff.2 (reached.requests_nodup.filter _)
  · obtain ⟨ledger, holds, -⟩ := reached.holds holds_start
    rw [(RequestStore.listed_perm selection _).mem_iff, List.mem_filter, holds.requests_eq, List.mem_map,
      holds.stores_iff]
  · exact (pageAt { status := some status } 0 0).trans (by rw [RequestStore.page_whole])
  · rw [RequestStore.exec_statistics (s := w.reachable) rfl related, related.length_eq]

end World

namespace Trial

/-- A ticket is registered, and a request to some roles is opened for it. -/
def openingFor (ticketId : String) (roles : List String) : List World.Event :=
  [.command (.registerTicket { id := .text ticketId, fields := .record [] }),
    .command (.openRequest
      { ticketId := .text ticketId, approvers := .list (roles.map .text), ruleTriggered := .text "R" })]

/-- Three requests are opened at the same time, and one of them is not for the role X. -/
def threeOpenings : List World.Event := openingFor "T" ["X"] ++ openingFor "U" ["Y"] ++ openingFor "V" ["Y", "X"]

end Trial

namespace World

/-- Pages of one request each for the role X: those two that are for it are listed in the order in which they were
opened. -/
theorem pages_complete_of_threeOpenings :
    ∃ w, Runs Trial.environment inTurn start w ∧ 1 ≤ 1 ∧ w.requests.map (·.ticketId) = ["T", "U", "V"] ∧
      ∃ (all : List Request) (pages : Nat → List Request) (last : Nat),
        exec (RequestStore.list (Selection.filter { role := some "X" }) 0 0) w.reachable = (.ok all, w.reachable) ∧
        (∀ index : Nat, exec (RequestStore.list (Selection.filter { role := some "X" }) ((index * 1 : Nat) : Int)
          ((1 : Nat) : Int)) w.reachable = (.ok (pages index), w.reachable)) ∧
        (∀ index, pages index = [] ↔ last ≤ index) ∧ (List.range last).flatMap pages = all ∧
        (all.filter (·.createdAt.utc == Session.beginning)).map (·.ticketId) = ["T", "V"] := by
  obtain ⟨w, reached, found⟩ := Runs.exists_of_play
    (p := fun w => w.requests.map (·.ticketId) == ["T", "U", "V"] &&
      ((w.requests.filter (Selection.admits { role := some "X" })).filter
        (·.createdAt.utc == Session.beginning)).map (·.ticketId) == ["T", "V"])
    (show (start.play Trial.environment inTurn Trial.threeOpenings).any _ = true by decide +kernel)
  obtain ⟨three, two⟩ := Bool.and_eq_true_iff.1 found
  obtain ⟨all, pages, last, lists, whole, paged, ends, joined, -, -, -, -, together, -⟩ :=
    pages_complete reached { role := some "X" } (Nat.le_refl 1)
  rw [← together] at two
  exact ⟨w, reached, Nat.le_refl 1, beq_iff_eq.1 three, all, pages, last, whole, paged, ends, joined,
    beq_iff_eq.1 two⟩

end World

end Countersign
