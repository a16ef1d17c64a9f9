/-
Module: Countersign.Proofs.Ledger.Requests
Purpose: What changes of stored requests are in the ledger, and what their documents show afterwards.
Main exports: Request.moved, Ledger.onRequest, Ledger.lease, Ledger.free, Ledger.move,
  RequestStore.moveTo_shown, RequestStore.freeAt_decides, Ledger.Located.exec_change
-/
import Countersign.Proofs.Ledger.Basic
import Countersign.Proofs.Service.Calls

namespace Countersign

open Service

/-!
A lease that is taken or given up and a status that changes are changes of one request of the ledger, and of
the fields of its document that say so. The ledger stays sound as long as the key that the request then has is
no other request's.
-/

/-- A request that was given a status at a time. -/
def Request.moved (request : Request) (status : ApprovalStatus) (time : Moment) : Request :=
  { request with
    status
    version := request.version + 1
    updatedAt := time.stored
    decidedAt := if status.isTerminal then some time.stored else request.decidedAt }

namespace Holding

/-- The request given a status, with its lease given up or kept. -/
def moved (holding : Holding) (status : ApprovalStatus) (time : Moment) (releasing : Bool) : Holding where
  request := holding.request.moved status time
  lease := if releasing then none else holding.lease

end Holding

namespace Ledger

/-- Change the request of an id. -/
def onRequest (ledger : Ledger) (id : String) (f : Holding → Holding) : Ledger :=
  { ledger with
    requests := ledger.requests.map fun holding => if holding.request.id = id then f holding else holding }

/-- Put a lease on a request. -/
def lease (ledger : Ledger) (id : String) (lease : Lease) : Ledger :=
  ledger.onRequest id fun holding => { holding with lease := some lease }

/-- Take the lease off a request. -/
def free (ledger : Ledger) (id : String) : Ledger :=
  ledger.onRequest id fun holding => { holding with lease := none }

/-- Give a request a status. -/
def move (ledger : Ledger) (id : String) (status : ApprovalStatus) (time : Moment)
    (releasing : Bool) : Ledger :=
  ledger.onRequest id fun holding => holding.moved status time releasing

namespace Located

variable {ledger : Ledger} {store : Store} {holding : Holding}

/-- Changing the request of an id changes the one entry with that id. -/
theorem requests_onRequest (located : ledger.Located store holding) (f : Holding → Holding) :
    (ledger.onRequest holding.request.id f).requests =
      located.front ++ f holding :: located.back := by
  have alone (entries : List Holding) (apart : ∀ other ∈ entries, other.request.id ≠ holding.request.id) :
      (entries.map fun other => if other.request.id = holding.request.id then f other else other) =
        entries := by
    refine (List.map_congr_left fun other within => ?_).trans (List.map_id _)
    simp [apart other within]
  simp only [onRequest, located.entries, List.map_append, List.map_cons, if_true]
  rw [alone located.front fun other within => located.others other (List.mem_append_left _ within),
    alone located.back fun other within => located.others other (List.mem_append_right _ within)]

/-- A ledger stays sound when a request keeps its id and its key is no other request's. -/
theorem sound_onRequest (located : ledger.Located store holding) (sound : ledger.Sound)
    {f : Holding → Holding} (sameId : (f holding).request.id = holding.request.id)
    (free : ∀ other ∈ located.front ++ located.back, other.key ≠ (f holding).key) :
    (ledger.onRequest holding.request.id f).Sound := by
  have ids := sound.requestIds
  have keys := sound.activeKeys
  refine ⟨?_, ?_, sound.actionIds, sound.actionKeys, sound.ticketIds⟩
  · rw [located.entries] at ids
    rw [located.requests_onRequest f]
    apply nodup_replace ids
    intro other within
    rw [sameId]
    exact located.others other within
  · rw [located.entries] at keys
    rw [located.requests_onRequest f]
    exact nodup_replace keys free

/-- The keys of the other requests are free for the key that a request has. -/
theorem key_free (located : ledger.Located store holding) (sound : ledger.Sound) :
    ∀ other ∈ located.front ++ located.back, other.key ≠ holding.key := by
  have keys := sound.activeKeys
  rw [located.entries] at keys
  exact ne_of_nodup keys

end Located

end Ledger

/-! ### Documents after a change -/

/-- A document in which only the lease changed reads as the same request. -/
theorem Request.check_released {request : Request} {document after : Document}
    (same : ∀ name, name ≠ "locked_by" → name ≠ "lock_expires_at" →
      Fields.get? after name = Fields.get? document name)
    (reads : Request.check document = .accepted request) : Request.check after = .accepted request := by
  obtain ⟨id, ticketId, approvers, ruleTriggered, roleToRules, status, version, createdAt, updatedAt, decidedAt⟩ :=
    Request.check_eq_accepted_iff.1 reads
  refine Request.check_eq_accepted_iff.2 ⟨?_, ?_, ?_, ?_, ?_, ?_, ?_, ?_, ?_, ?_⟩
  · exact Fields.required_congr (same _ (by decide) (by decide)) id
  · exact Fields.required_congr (same _ (by decide) (by decide)) ticketId
  · exact Fields.required_congr (same _ (by decide) (by decide)) approvers
  · exact Fields.required_congr (same _ (by decide) (by decide)) ruleTriggered
  · exact Fields.optional_congr (same _ (by decide) (by decide)) roleToRules
  · exact Fields.optional_congr (same _ (by decide) (by decide)) status
  · exact Fields.optional_congr (same _ (by decide) (by decide)) version
  · exact Fields.required_congr (same _ (by decide) (by decide)) createdAt
  · exact Fields.required_congr (same _ (by decide) (by decide)) updatedAt
  · exact Fields.optional_congr (same _ (by decide) (by decide)) decidedAt

namespace Holding.ShownBy

variable {holding : Holding} {document after : Document}

/-- It shows the lease that it has then. -/
theorem releasedTo (shown : holding.ShownBy document) {lease : Option Lease}
    (same : ∀ name, name ≠ "locked_by" → name ≠ "lock_expires_at" →
      Fields.get? after name = Fields.get? document name)
    (holder : Fields.get? after "locked_by" = some (.ofText? (lease.map Lease.holder)))
    (ends : Fields.get? after "lock_expires_at" = some (Lease.endsValue lease)) :
    ({ holding with lease } : Holding).ShownBy after := by
  refine ⟨Request.check_released same shown.reads, ?_, ?_, ?_, ?_, holder, ends, shown.wholeId, shown.wholeTicketId⟩
  · exact (same _ (by decide) (by decide)).trans shown.identity
  · exact (same _ (by decide) (by decide)).trans shown.activeKey
  · exact (same _ (by decide) (by decide)).trans shown.status
  · exact (same _ (by decide) (by decide)).trans shown.version

end Holding.ShownBy

namespace RequestStore

variable {holding : Holding} {document : Document}

/-- A document with a lease on it. -/
def leased (token : String) (ends : Double) (document : Document) : Document :=
  Fields.putAll document (Value.storedFields [("locked_by", .text token), ("lock_expires_at", .float ends)])

theorem get?_leased {name : String} (notHolder : name ≠ "locked_by") (notEnds : name ≠ "lock_expires_at")
    (token : String) (ends : Double) (document : Document) :
    Fields.get? (leased token ends document) name = Fields.get? document name := by
  simp [leased, Value.storedFields, Fields.putAll, Fields.get?_put, Ne.symm notHolder, Ne.symm notEnds]

/-- A holder whose name the store can keep puts a lease on a document. -/
theorem lease_eq {token : String} (whole : Text.hasHalf token = false) (ends : Double) (document : Document) :
    lease (.text token) ends document = ⟨leased token ends document, none⟩ := by
  have storable : Change.StorableAll [("locked_by", .text token), ("lock_expires_at", .float ends)] := by
    intro field within
    simp only [List.mem_cons, List.not_mem_nil, or_false] at within
    rcases within with rfl | rfl
    · rw [Document.fieldFault?_of_nameKept (Document.nameKept_of_mem (by simp))]
      exact Value.storeFault?_text_iff.2 whole
    · rw [Document.fieldFault?_of_nameKept (Document.nameKept_of_mem (by simp))]
      rfl
  exact Change.setAll_eq storable document

/-- Then the document shows it. -/
theorem lease_shown (shown : holding.ShownBy document) {token : String}
    (whole : Text.hasHalf token = false) (ends : Double) :
    ∃ after, lease (.text token) ends document = ⟨after, none⟩ ∧
      ({ holding with lease := some ⟨token, ends⟩ } : Holding).ShownBy after := by
  refine ⟨_, lease_eq whole ends document, shown.releasedTo ?_ ?_ ?_⟩
  · exact fun name notHolder notEnds => get?_leased notHolder notEnds token ends document
  · simp [leased, Value.storedFields, Value.stored, Fields.putAll, Fields.get?_put, Value.ofText?]
  · simp [leased, Value.storedFields, Value.stored, Fields.putAll, Fields.get?_put, Lease.endsValue]

/-- The lease is taken off a document. -/
theorem leaseFree_shown (shown : holding.ShownBy document) :
    ∃ after, Change.setAll leaseFree document = ⟨after, none⟩ ∧
      ({ holding with lease := none } : Holding).ShownBy after := by
  have storable : Change.StorableAll leaseFree := by
    intro field within
    simp only [leaseFree, List.mem_cons, List.not_mem_nil, or_false] at within
    rcases within with rfl | rfl <;>
      rw [Document.fieldFault?_of_nameKept (Document.nameKept_of_mem (by simp))] <;> rfl
  refine ⟨_, Change.setAll_eq storable document, shown.releasedTo ?_ ?_ ?_⟩
  · intro name notHolder notEnds
    simp [leaseFree, Value.storedFields, Fields.putAll, Fields.get?_put, Ne.symm notHolder,
      Ne.symm notEnds]
  · simp [leaseFree, Value.storedFields, Value.stored, Fields.putAll, Fields.get?_put, Value.ofText?]
  · simp [leaseFree, Value.storedFields, Value.stored, Fields.putAll, Fields.get?_put, Lease.endsValue]

/-- What a document is given when its request gets another status, but for the version. -/
def movedFields (holding : Holding) (status : ApprovalStatus) (time : Moment) (releasing : Bool) :
    Fields :=
  [("status", .text status.name), ("updated_at", .moment time),
      ("active_key", activeKey holding.request.ticketId (.text holding.request.id) status)]
    ++ (if status.isTerminal then [("decided_at", .moment time)] else [])
    ++ (if releasing then leaseFree else [])

/-- The active key that goes with a status. -/
theorem activeKey_text (ticketId id : String) (status : ApprovalStatus) :
    activeKey ticketId (.text id) status = .text (Request.activeKey ticketId id status) := by
  cases status <;> rfl

theorem movedFields_storable (shown : holding.ShownBy document) (status : ApprovalStatus)
    {time : Moment} (within : time.leavesCalendar = false) (releasing : Bool) :
    Change.StorableAll (movedFields holding status time releasing) := by
  have named : (Value.text status.name).storeFault? = none := by
    cases status <;> exact Value.storeFault?_text_iff.2 (by decide)
  have keyed : (activeKey holding.request.ticketId (.text holding.request.id) status).storeFault? =
      none := by
    rw [activeKey_text]
    refine Value.storeFault?_text_iff.2 ?_
    unfold Request.activeKey
    split
    · exact shown.wholeId
    · exact shown.wholeTicketId
  have timed := Value.storeFault?_moment within
  have noted (name : String) (v : Value) (known : name ∈ ["status", "updated_at", "active_key",
      "decided_at", "locked_by", "lock_expires_at"]) (kept : v.storeFault? = none) :
      Document.fieldFault? name v = none := by
    rw [Document.fieldFault?_of_nameKept (Document.nameKept_of_mem known)]
    exact kept
  intro field member
  unfold movedFields at member
  rcases List.mem_append.mp member with early | last
  · rcases List.mem_append.mp early with first | decided
    · simp only [List.mem_cons, List.not_mem_nil, or_false] at first
      rcases first with rfl | rfl | rfl
      · exact noted _ _ (by simp) named
      · exact noted _ _ (by simp) timed
      · exact noted _ _ (by simp) keyed
    · split at decided
      · obtain rfl := List.mem_singleton.mp decided
        exact noted _ _ (by simp) timed
      · cases decided
  · split at last
    · simp only [leaseFree, List.mem_cons, List.not_mem_nil, or_false] at last
      rcases last with rfl | rfl
      · exact noted _ _ (by simp) rfl
      · exact noted _ _ (by simp) rfl
    · cases last

/-- The document of a request that was given another status. -/
def movedDocument (holding : Holding) (document : Document) (status : ApprovalStatus) (time : Moment)
    (releasing : Bool) : Document :=
  (Fields.putAll document (Value.storedFields (movedFields holding status time releasing))).put "version"
    (.int (holding.request.version + 1))

/-- What the change of a status leaves alone. -/
theorem get?_movedDocument_of_ne {status : ApprovalStatus} {time : Moment} {releasing : Bool}
    {name : String} (other : name ∉ ["status", "updated_at", "active_key", "decided_at", "locked_by",
      "lock_expires_at", "version"]) :
    Fields.get? (movedDocument holding document status time releasing) name =
      Fields.get? document name := by
  simp only [List.mem_cons, List.not_mem_nil, or_false, not_or] at other
  obtain ⟨notStatus, notUpdated, notKey, notDecided, notHolder, notEnds, notVersion⟩ := other
  cases status <;> cases releasing <;>
    simp [movedDocument, movedFields, leaseFree, ApprovalStatus.isTerminal, Value.storedFields,
      Fields.putAll, Fields.get?_put, Ne.symm notStatus, Ne.symm notUpdated, Ne.symm notKey,
      Ne.symm notDecided, Ne.symm notHolder, Ne.symm notEnds, Ne.symm notVersion]

/-- What the change of a status writes. -/
theorem get?_movedDocument (holding : Holding) (document : Document) (status : ApprovalStatus) (time : Moment)
    (releasing : Bool) :
    Fields.get? (movedDocument holding document status time releasing) "status" = some (.text status.name) ∧
    Fields.get? (movedDocument holding document status time releasing) "version" =
      some (.int (holding.request.version + 1)) ∧
    Fields.get? (movedDocument holding document status time releasing) "updated_at" = some (.moment time.stored) ∧
    Fields.get? (movedDocument holding document status time releasing) "active_key" =
      some (.text (holding.moved status time releasing).key) := by
  cases status <;> cases releasing <;>
    simp [movedDocument, movedFields, leaseFree, ApprovalStatus.isTerminal, Value.storedFields,
      Value.stored, Fields.putAll, Fields.get?_put, activeKey, Holding.key, Holding.moved, Request.moved,
      Request.activeKey]

/-- The lease is given up with the change of a status, or left alone. -/
theorem lease_movedDocument (shown : holding.ShownBy document) (status : ApprovalStatus) (time : Moment)
    (releasing : Bool) :
    Fields.get? (movedDocument holding document status time releasing) "locked_by" =
      some (.ofText? (holding.moved status time releasing).holder?) ∧
    Fields.get? (movedDocument holding document status time releasing) "lock_expires_at" =
      some (Lease.endsValue (holding.moved status time releasing).lease) := by
  have holder := shown.holder
  have ends := shown.ends
  cases status <;> cases releasing <;>
    simp [movedDocument, movedFields, leaseFree, ApprovalStatus.isTerminal, Value.storedFields,
      Value.stored, Fields.putAll, Fields.get?_put, Holding.moved, Holding.holder?, Value.ofText?,
      Lease.endsValue, holder, ends]

/-- A request that is decided has the time of that, and one that is not has what it had before. -/
theorem decidedAt_movedDocument (shown : holding.ShownBy document) (status : ApprovalStatus) (time : Moment)
    (releasing : Bool) :
    Fields.optional (movedDocument holding document status time releasing) "decided_at" none
      (Reader.nullable Reader.moment) = .accepted (holding.request.moved status time).decidedAt := by
  obtain ⟨-, -, -, -, -, -, -, -, -, decidedAt⟩ := Request.check_eq_accepted_iff.1 shown.reads
  cases terminal : status.isTerminal with
  | true =>
      have known : Fields.get? (movedDocument holding document status time releasing) "decided_at" =
          some (.moment time.stored) := by
        cases releasing <;>
          simp [movedDocument, movedFields, leaseFree, terminal, Value.storedFields, Value.stored,
            Fields.putAll, Fields.get?_put]
      rw [Fields.optional_of_get? known]
      simp [Request.moved, terminal, Reader.nullable, Reader.moment]
  | false =>
      have known : Fields.get? (movedDocument holding document status time releasing) "decided_at" =
          Fields.get? document "decided_at" := by
        cases releasing <;>
          simp [movedDocument, movedFields, leaseFree, terminal, Value.storedFields, Fields.putAll,
            Fields.get?_put]
      simpa [Request.moved, terminal] using Fields.optional_congr known decidedAt

/-- The document of a request that was given another status keeps the request in that status. -/
theorem movedDocument_shown (shown : holding.ShownBy document) (status : ApprovalStatus) (time : Moment)
    (releasing : Bool) :
    (holding.moved status time releasing).ShownBy (movedDocument holding document status time releasing) := by
  obtain ⟨id, ticketId, approvers, ruleTriggered, roleToRules, -, -, createdAt, -, -⟩ :=
    Request.check_eq_accepted_iff.1 shown.reads
  obtain ⟨stands, counted, updated, key⟩ := get?_movedDocument holding document status time releasing
  obtain ⟨holder, ends⟩ := lease_movedDocument shown status time releasing
  refine ⟨Request.check_eq_accepted_iff.2
      ⟨?_, ?_, ?_, ?_, ?_, ?_, ?_, ?_, ?_, decidedAt_movedDocument shown status time releasing⟩,
    ?_, key, stands, counted, holder, ends, shown.wholeId, shown.wholeTicketId⟩
  · exact Fields.required_congr (get?_movedDocument_of_ne (by decide)) id
  · exact Fields.required_congr (get?_movedDocument_of_ne (by decide)) ticketId
  · exact Fields.required_congr (get?_movedDocument_of_ne (by decide)) approvers
  · exact Fields.required_congr (get?_movedDocument_of_ne (by decide)) ruleTriggered
  · exact Fields.optional_congr (get?_movedDocument_of_ne (by decide)) roleToRules
  · exact (Fields.optional_of_get? stands).2 (Reader.choice_status status)
  · exact (Fields.optional_of_get? counted).2 rfl
  · exact Fields.required_congr (get?_movedDocument_of_ne (by decide)) createdAt
  · exact Fields.required_eq_accepted_iff.2 ⟨_, updated, rfl⟩
  · exact (get?_movedDocument_of_ne (by decide)).trans shown.identity

/-- The change of a status stops nowhere, and the document then keeps the request in that status. -/
theorem moveTo_shown (shown : holding.ShownBy document) (status : ApprovalStatus) {time : Moment}
    (within : time.leavesCalendar = false) (releasing : Bool) :
    ∃ after,
      moveTo holding.request.ticketId (.text holding.request.id) status time releasing document =
        ⟨after, none⟩ ∧ (holding.moved status time releasing).ShownBy after := by
  have version : Fields.get? (Fields.putAll document
      (Value.storedFields (movedFields holding status time releasing))) "version" =
        some (.int holding.request.version) := by
    cases status <;> cases releasing <;>
      simp [movedFields, leaseFree, ApprovalStatus.isTerminal, Value.storedFields, Fields.putAll,
        Fields.get?_put, shown.version]
  have spelled : moveTo holding.request.ticketId (.text holding.request.id) status time releasing =
      (Change.setAll (movedFields holding status time releasing)).andThen (Change.increment "version") := rfl
  have made := Change.setAll_eq (movedFields_storable shown status within releasing) document
  refine ⟨_, ?_, movedDocument_shown shown status time releasing⟩
  simp only [spelled, Change.andThen, made, Change.increment, version, Change.increment?]
  rfl

/-- Whether a lease may be taken is read from the document. -/
theorem isFree_shown (shown : holding.ShownBy document) (time : Double) :
    isFree time document = holding.isFree time := by
  unfold isFree Holding.isFree
  simp only [Document.meets, Fields.getD, shown.ends, Option.getD_some]
  cases holding.lease with
  | none => rfl
  | some lease =>
      have order : Value.order? (.float lease.ends) (.float time) =
          Value.orderBy (lease.ends.lt time) (lease.ends.eqv time) (time.lt lease.ends) := rfl
      have apart : (Value.float lease.ends).meets .null = false := rfl
      simp only [Lease.endsValue, apart, Bool.false_or, Filter.someOf, Filter.goesThrough,
        Filter.stands, order, Double.le, Value.kindRank]
      cases lease.ends.lt time <;> cases lease.ends.eqv time <;> cases time.lt lease.ends <;> rfl

/-! ### Queries for one request -/

/-- The query for an id picks the document of the request with that id. -/
theorem withId_shown (shown : holding.ShownBy document) (id : String) :
    document.meets "approval_request_id" (.text id) = (holding.request.id == id) := by
  simp only [Document.meets, Fields.getD, shown.id, Option.getD_some, Value.meets_text]

theorem holder_shown (shown : holding.ShownBy document) (token : String) :
    document.meets "locked_by" (.text token) = (holding.holder? == some token) := by
  simp only [Document.meets, Fields.getD, shown.holder, Option.getD_some, Value.ofText?_meets_text]

theorem heldBy_decides (id token : String) :
    (heldBy (.text id) (.text token)).Decides fun document =>
      document.meets "approval_request_id" (.text id) && document.meets "locked_by" (.text token) :=
  (Query.decides_text _ _).both (Query.decides_text _ _)

theorem freeAt_decides (id : String) (time : Double) :
    (freeAt (.text id) time).Decides fun document =>
      document.meets "approval_request_id" (.text id) && isFree time document :=
  (Query.decides_text _ _).both fun _ => rfl

end RequestStore

namespace Ledger.Located

variable {ledger : Ledger} {s : ServiceState} {holding : Holding} {query : Query}
  {test : Document → Bool} {f : Holding → Holding} {alteration : Change} {after : Document}

/-- A change to the document of one request changes the ledger at that request, unless the key that the
request would then have is another's. -/
theorem exec_change (up : s.down = false) (shown : ledger.ShownBy s.store)
    (located : ledger.Located s.store holding) (decides : query.Decides test)
    (apart : ∀ {other document}, Holding.ShownBy other document →
      other.request.id ≠ holding.request.id → test document = false)
    (met : test located.document = true) (made : alteration located.document = ⟨after, none⟩)
    (changed : (f holding).ShownBy after) (sameId : (f holding).request.id = holding.request.id) :
    ((∀ other ∈ located.front ++ located.back, other.key ≠ (f holding).key) ∧
      ∃ table, exec (change .requests query alteration) s =
          (.ok (some (located.document, after)),
            { s with store := s.store.setTable .requests table }) ∧
        (ledger.onRequest holding.request.id f).ShownBy (s.store.setTable .requests table)) ∨
    ((∃ other ∈ located.front ++ located.back, other.key = (f holding).key) ∧
      exec (change .requests query alteration) s = (.error (.store .keyTaken), s)) := by
  have before : ∀ document ∈ located.before, query document = .ok false := by
    intro document within
    obtain ⟨other, inFront, here⟩ := exists_of_mem_documents located.inFront within
    rw [decides, apart here (located.others other (List.mem_append_left _ inFront))]
  have here : query located.document = .ok true := by rw [decides, met]
  have split : (s.store.table .requests).updateFirst Collection.requests.uniqueKeys query alteration =
      .ok (Table.changeOne Collection.requests.uniqueKeys alteration located.before located.document
        located.behind) := by
    change Table.updateFirst _ s.store.requests _ _ = _
    rw [located.documents]
    exact Table.updateFirst_split before here _ _
  have related : List.Forall₂ Holding.ShownBy (located.front ++ f holding :: located.back)
      (located.before ++ after :: located.behind) :=
    related_replace located.inFront changed located.inBack
  -- The id stays, so of the two unique keys only the active one can be taken.
  rcases Holding.keyed.changeOne_cases located.inFront located.inBack located.shown changed sameId made with
    ⟨free, outcome⟩ | ⟨⟨other, within, key, known, shared⟩, outcome⟩
  · have alone : ∀ other ∈ located.front ++ located.back, other.key ≠ (f holding).key :=
      fun other within => (Holding.apart_iff.1 (free other within)).2
    refine Or.inl ⟨alone, _, exec_change_changed up (split.trans (congrArg Except.ok outcome)), ?_⟩
    refine ⟨?_, shown.actions, shown.tickets, located.sound_onRequest shown.sound sameId alone⟩
    rw [located.requests_onRequest f]
    exact related
  · refine Or.inr ⟨⟨other, within, ?_⟩, ?_⟩
    · by_contra apart
      have sameIds : other.request.id ≠ (f holding).request.id := sameId ▸ located.others other within
      exact Holding.apart_iff.2 ⟨sameIds, apart⟩ key known shared
    · rw [exec_change_refused up (split.trans (congrArg Except.ok outcome)), ← located.documents]
      rfl

end Ledger.Located

end Countersign
