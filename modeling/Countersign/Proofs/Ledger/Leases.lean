/-
Module: Countersign.Proofs.Ledger.Leases
Purpose: What reading requests, leasing them and changing their status answers and does to the ledger.
Main exports: RequestStore.exec_get_known, RequestStore.Known, RequestStore.exec_ensureKnown, RequestStore.Vacant,
  RequestStore.exec_claim?_of_not_vacant, RequestStore.exec_claim?_vacant, RequestStore.exec_claim?_free,
  RequestStore.exec_claim?_taken, RequestStore.exec_release_held, RequestStore.exec_write?_held,
  RequestStore.exec_write?_other
-/
import Countersign.Proofs.Ledger.Requests

namespace Countersign

open Service

/-!
Each operation on stored requests is told here in terms of the ledger, one equation for each way in which it
may go. Only a status that would take another request's key is refused by the store; everything else that a
holder of the lease asks for is done, and what anybody else asks for changes nothing.
-/

namespace Ledger

variable {ledger : Ledger} {store : Store} {query : Query} {test : Document → Bool}

/-- A query that only the document of one request meets finds that document. -/
theorem Located.find? {holding : Holding} (located : ledger.Located store holding)
    (decides : query.Decides test)
    (apart : ∀ {other document}, Holding.ShownBy other document →
      other.request.id ≠ holding.request.id → test document = false)
    (met : test located.document = true) :
    (store.table .requests).find? query = .ok (some located.document) := by
  have before : ∀ document ∈ located.before, ¬ test document = true := by
    intro document within
    obtain ⟨other, inFront, here⟩ := exists_of_mem_documents located.inFront within
    simp [apart here (located.others other (List.mem_append_left _ inFront))]
  change Table.find? store.requests query = _
  rw [Table.find?_eq decides, located.documents, List.find?_append,
    List.find?_eq_none.2 before, List.find?_cons_of_pos met]
  rfl

/-- Where the document of no request meets a query, none does. -/
theorem ShownBy.unmet (shown : ledger.ShownBy store)
    (apart : ∀ {other document}, Holding.ShownBy other document → other ∈ ledger.requests →
      test document = false) :
    ∀ document ∈ store.requests, test document = false := by
  have through : ∀ {entries : List Holding} {documents : List Document},
      List.Forall₂ Holding.ShownBy entries documents → (∀ other ∈ entries, other ∈ ledger.requests) →
        ∀ document ∈ documents, test document = false := by
    intro entries documents related known document within
    obtain ⟨other, inside, here⟩ := exists_of_mem_documents related within
    exact apart here (known other inside)
  exact through shown.requests fun _ within => within

theorem ShownBy.find?_none (shown : ledger.ShownBy store) (decides : query.Decides test)
    (apart : ∀ {other document}, Holding.ShownBy other document → other ∈ ledger.requests →
      test document = false) :
    (store.table .requests).find? query = .ok none := by
  change Table.find? store.requests query = _
  rw [Table.find?_eq decides, List.find?_eq_none.2 fun document within => by
    simp [shown.unmet apart document within]]

end Ledger

namespace RequestStore

variable {ledger : Ledger} {s : ServiceState} {holding : Holding} {id token : String}

/-! ### Reading -/

/-- The document of another request does not meet the query for an id. -/
theorem withId_apart {other : Holding} {document : Document} (here : other.ShownBy document)
    (different : other.request.id ≠ id) :
    document.meets "approval_request_id" (.text id) = false := by
  rw [withId_shown here]
  simpa using different

/-- A document meets the query for a free lease only where its request has the id and is free. -/
theorem freeAt_apart {other : Holding} {document : Document} (here : other.ShownBy document)
    {time : Double} (taken : other.request.id = id → other.isFree time = false) :
    (document.meets "approval_request_id" (.text id) && isFree time document) = false := by
  by_cases same : other.request.id = id
  · rw [isFree_shown here, taken same, Bool.and_false]
  · rw [withId_apart here same, Bool.false_and]

/-- A document meets the query for the holder of a lease only where its request has the id and the holder. -/
theorem heldBy_apart {other : Holding} {document : Document} (here : other.ShownBy document)
    (free : other.request.id = id → other.holder? ≠ some token) :
    (document.meets "approval_request_id" (.text id) && document.meets "locked_by" (.text token)) =
      false := by
  by_cases same : other.request.id = id
  · rw [holder_shown here]
    simp [free same]
  · rw [withId_apart here same, Bool.false_and]

theorem exec_get_down (down : s.down = true) (id : Value) :
    exec (get id) s = (.error .storeDown, s) := by
  rw [get, exec_bind_error (exec_findOne_down down)]

theorem exec_get_known (up : s.down = false) (shown : ledger.ShownBy s.store)
    (member : holding ∈ ledger.requests) :
    exec (get (.text holding.request.id)) s = (.ok holding.request, s) := by
  obtain ⟨located⟩ := shown.located member
  have found := located.find? (Query.decides_text "approval_request_id" holding.request.id)
    (fun here different => withId_apart here different)
    (by simp [withId_shown located.shown])
  rw [get, exec_bind, withId, exec_findOne up found]
  simp [located.shown.reads]

theorem exec_get_unknown (up : s.down = false) (shown : ledger.ShownBy s.store)
    (unknown : ∀ holding ∈ ledger.requests, holding.request.id ≠ id) :
    exec (get (.text id)) s = (.error (.refused (.requestMissing (.text id))), s) := by
  have found := shown.find?_none (Query.decides_text "approval_request_id" id)
    (fun here known => withId_apart here (unknown _ known))
  rw [get, exec_bind, withId, exec_findOne up found]
  simp

/-- What a request that was read is. -/
theorem of_exec_get {s' : ServiceState} {outcome : Except Failure Request}
    (shown : ledger.ShownBy s.store) (ran : exec (get (.text id)) s = (outcome, s')) :
    s' = s ∧ ∀ request, outcome = .ok request →
      ∃ holding ∈ ledger.requests, holding.request = request ∧ request.id = id := by
  cases down : s.down with
  | true =>
      rw [exec_get_down down] at ran
      cases ran
      exact ⟨rfl, fun request same => by cases same⟩
  | false =>
      by_cases known : ∃ holding ∈ ledger.requests, holding.request.id = id
      · obtain ⟨holding, member, rfl⟩ := known
        rw [exec_get_known down shown member] at ran
        cases ran
        refine ⟨rfl, fun request same => ?_⟩
        cases same
        exact ⟨holding, member, rfl, rfl⟩
      · rw [exec_get_unknown down shown fun holding member same => known ⟨holding, member, same⟩] at ran
        cases ran
        exact ⟨rfl, fun request same => by cases same⟩

/-- A request of an id is stored. -/
def Known (s : ServiceState) (id : String) : Prop :=
  ∃ document ∈ s.store.requests, document.meets "approval_request_id" (.text id) = true

instance (s : ServiceState) (id : String) : Decidable (Known s id) := inferInstanceAs (Decidable (∃ _ ∈ _, _))

/-- Who makes sure that a request is there learns whether it is. -/
theorem exec_ensureKnown (up : s.down = false) (id : String) :
    exec (ensureKnown (.text id)) s =
      (if Known s id then .ok () else .error (.refused (.requestMissing (.text id))), s) := by
  have looked : (s.store.table .requests).find? (withId (.text id)) =
      .ok (List.find? (fun document => document.meets "approval_request_id" (.text id)) s.store.requests) :=
    Table.find?_eq (Query.decides_text _ id) _
  rw [ensureKnown, exec_bind, exec_findOne up looked]
  by_cases known : Known s id
  · obtain ⟨document, first⟩ := Option.isSome_iff_exists.1 (List.find?_isSome.2 known)
    rw [first, if_pos known]
    rfl
  · have none := List.find?_eq_none.2 fun document within met => known ⟨document, within, met⟩
    rw [none, if_neg known]
    rfl

/-- Making sure that a request is there changes nothing. -/
theorem exec_ensureKnown_state (id : Value) : (exec (ensureKnown id) s).2 = s := by
  cases down : s.down with
  | true => rw [ensureKnown, exec_bind_error (exec_findOne_down down)]
  | false =>
      rw [ensureKnown, exec_bind, exec_findOne down rfl]
      cases (s.store.table .requests).find? (withId id) with
      | error fault => rfl
      | ok found => cases found <;> rfl

/-! ### Leases -/

theorem exec_claim?_down (down : s.down = true) (id token : Value) (length : Double) :
    exec (claim? id token length) s = (.error .storeDown, s) := by
  rw [claim?, exec_bind, exec_seconds]
  exact exec_bind_error (exec_update_down down _) _

/-- The clock in seconds, as leases are measured. -/
def secondsAt (s : ServiceState) : Double := Double.ofRatio (s.clock < 0) s.clock.natAbs 1000000

/-- A request of an id is stored, and on it there is no lease, or one that has run out by the clock. -/
def Vacant (s : ServiceState) (id : String) : Prop :=
  ∃ document ∈ s.store.requests,
    (document.meets "approval_request_id" (.text id) && isFree (secondsAt s) document) = true

instance (s : ServiceState) (id : String) : Decidable (Vacant s id) := inferInstanceAs (Decidable (∃ _ ∈ _, _))

/-- A stored document has its identity and its unique keys alone. -/
def Alone (s : ServiceState) (document : Document) : Prop :=
  Document.sameOrMissing (Fields.get? document Document.identity) (Fields.get? document Document.identity) = true ∧
    Table.uniqueFault? s.store.requests document Collection.requests.uniqueKeys = none

/-- Whoever asks for a lease that is vacant puts it on the first document on which it is, if that has its keys alone,
and is told what the document reads as. -/
theorem exec_claim?_vacant (up : s.down = false) (vacant : Vacant s id) (whole : Text.hasHalf token = false)
    (length : Double) :
    ∃ front document back, s.store.requests = front ++ document :: back ∧
      (document.meets "approval_request_id" (.text id) && isFree (secondsAt s) document) = true ∧
      (Alone s document → exec (claim? (.text id) (.text token) length) s =
        exec (some <$> accept (Request.check (leased token ((secondsAt s).add length) document)))
          { s with store :=
              s.store.setTable .requests (front ++ leased token ((secondsAt s).add length) document :: back) }) := by
  obtain ⟨document, first⟩ := Option.isSome_iff_exists.1 (List.find?_isSome.2 vacant)
  obtain ⟨met, front, back, split, passed⟩ := List.find?_eq_some_iff_append.1 first
  refine ⟨front, document, back, split, met, fun ⟨identity, unique⟩ => ?_⟩
  have decides := freeAt_decides id (secondsAt s)
  have inFront : ∀ other ∈ front, freeAt (.text id) (secondsAt s) other = .ok false := by
    intro other within
    exact (decides other).trans (congrArg Except.ok ((Bool.not_eq_true' _).mp (passed other within)))
  have here : freeAt (.text id) (secondsAt s) document = .ok true := (decides document).trans (congrArg Except.ok met)
  have keys : ∀ key ∈ Collection.requests.uniqueKeys, key ≠ "locked_by" ∧ key ≠ "lock_expires_at" ∧
      Text.pathParts key = [key] ∧ key ≠ "" ∧ Filter.isWord key = false := by decide +kernel
  -- Only the lease changes, so the document keeps the identity and the keys that it has alone.
  have leases := lease_eq whole ((secondsAt s).add length) document
  have kept (name : String) (notHolder : name ≠ "locked_by") (notEnds : name ≠ "lock_expires_at") :=
    get?_leased notHolder notEnds token ((secondsAt s).add length) document
  generalize leased token ((secondsAt s).add length) document = after at leases kept ⊢
  rw [split] at unique
  have changed := Table.changeOne_of_unique leases (by rw [kept _ (by decide) (by decide), identity])
    (fun key within => (keys key within).2.2)
    (fun key within => kept key (keys key within).1 (keys key within).2.1) unique
  have made : (s.store.table .requests).updateFirst Collection.requests.uniqueKeys (freeAt (.text id) (secondsAt s))
      (lease (.text token) ((secondsAt s).add length)) = .ok (.changed document after (front ++ after :: back)) := by
    change Table.updateFirst _ s.store.requests _ _ = _
    rw [split, Table.updateFirst_split inFront here, changed]
  rw [claim?, exec_bind, exec_seconds]
  refine (exec_bind_ok (exec_update_changed up made) _).trans ?_
  rw [map_eq_pure_bind]

/-- A lease that is vacant in a store that shows a ledger is that of a request of the ledger. -/
theorem Vacant.exists_holding (vacant : Vacant s id) (shown : ledger.ShownBy s.store) :
    ∃ holding ∈ ledger.requests, holding.request.id = id ∧ holding.isFree (secondsAt s) = true := by
  obtain ⟨document, within, met⟩ := vacant
  obtain ⟨holding, member, here⟩ := exists_of_mem_documents shown.requests within
  rw [withId_shown here, isFree_shown here, Bool.and_eq_true_iff] at met
  exact ⟨holding, member, by simpa using met.1, met.2⟩

/-- Whoever asks for a lease that is free takes it. -/
theorem exec_claim?_free (up : s.down = false) (shown : ledger.ShownBy s.store)
    (member : holding ∈ ledger.requests) (free : holding.isFree (secondsAt s) = true)
    (whole : Text.hasHalf token = false) (length : Double) :
    ∃ table, exec (claim? (.text holding.request.id) (.text token) length) s =
        (.ok (some holding.request), { s with store := s.store.setTable .requests table }) ∧
      (ledger.lease holding.request.id ⟨token, (secondsAt s).add length⟩).ShownBy
        (s.store.setTable .requests table) := by
  obtain ⟨located⟩ := shown.located member
  obtain ⟨after, made, changed⟩ := lease_shown located.shown whole ((secondsAt s).add length)
  rcases located.exec_change up shown (freeAt_decides holding.request.id (secondsAt s))
      (f := fun holding => { holding with lease := some ⟨token, (secondsAt s).add length⟩ })
      (fun here different => by simp [withId_apart here different])
      (by simp [withId_shown located.shown, isFree_shown located.shown, free])
      made changed rfl with
    ⟨-, table, ran, shows⟩ | ⟨⟨other, within, taken⟩, -⟩
  · refine ⟨table, ?_, shows⟩
    rw [claim?, exec_bind, exec_seconds]
    have updated : exec (update .requests (freeAt (.text holding.request.id) (secondsAt s))
        (lease (.text token) ((secondsAt s).add length))) s =
          (.ok (some after), { s with store := s.store.setTable .requests table }) := by
      rw [update, exec_bind_ok ran]
      rfl
    apply (exec_bind_ok updated _).trans
    rw [exec_bind, changed.reads]
    rfl
  · exact absurd taken (located.key_free shown.sound other within)

/-- Whoever asks for a lease that is not vacant gets none. -/
theorem exec_claim?_of_not_vacant (up : s.down = false) (busy : ¬ Vacant s id) (token : Value) (length : Double) :
    exec (claim? (.text id) token length) s = (.ok none, s) := by
  have unmet : ∀ document ∈ s.store.requests,
      (document.meets "approval_request_id" (.text id) && isFree (secondsAt s) document) = false :=
    fun document within => Bool.eq_false_iff.2 fun met => busy ⟨document, within, met⟩
  have unchanged := Table.updateFirst_unmet (freeAt_decides id (secondsAt s)) unmet
    Collection.requests.uniqueKeys (lease token ((secondsAt s).add length))
  rw [claim?, exec_bind, exec_seconds]
  exact exec_bind_ok (exec_update_unmet .requests up unchanged) _

/-- Whoever asks for a lease that is not free gets none. -/
theorem exec_claim?_taken (id : String) (up : s.down = false) (shown : ledger.ShownBy s.store)
    (taken : ∀ holding ∈ ledger.requests, holding.request.id = id →
      holding.isFree (secondsAt s) = false) (token : Value) (length : Double) :
    exec (claim? (.text id) token length) s = (.ok none, s) := by
  refine exec_claim?_of_not_vacant up (fun ⟨document, within, met⟩ => ?_) token length
  rw [shown.unmet (fun here known => freeAt_apart here (taken _ known)) document within] at met
  cases met

/-- Giving up a lease takes it off the request. -/
theorem exec_release_held (up : s.down = false) (shown : ledger.ShownBy s.store)
    (member : holding ∈ ledger.requests) (held : holding.holder? = some token) :
    ∃ told table, exec (release (.text holding.request.id) (.text token)) s =
        (.ok told, { s with store := s.store.setTable .requests table }) ∧
      (ledger.free holding.request.id).ShownBy (s.store.setTable .requests table) := by
  obtain ⟨located⟩ := shown.located member
  obtain ⟨after, made, changed⟩ := leaseFree_shown located.shown
  rcases located.exec_change up shown (heldBy_decides holding.request.id token)
      (f := fun holding => { holding with lease := none })
      (fun here different => by simp [withId_apart here different])
      (by simp [withId_shown located.shown, holder_shown located.shown, held])
      made changed rfl with
    ⟨-, table, ran, shows⟩ | ⟨⟨other, within, taken⟩, -⟩
  · refine ⟨!Value.same (.record located.document) (.record after), table, ?_, shows⟩
    rw [release, exec_bind_ok ran]
    rfl
  · exact absurd taken (located.key_free shown.sound other within)

/-- Who does not hold the lease cannot give it up. -/
theorem exec_release_other (up : s.down = false) (shown : ledger.ShownBy s.store)
    (other : ∀ holding ∈ ledger.requests, holding.request.id = id → holding.holder? ≠ some token) :
    exec (release (.text id) (.text token)) s = (.ok false, s) := by
  have unmet := Table.updateFirst_unmet (heldBy_decides id token)
    (shown.unmet fun here known => heldBy_apart here (other _ known))
    Collection.requests.uniqueKeys (Change.setAll leaseFree)
  rw [release, exec_bind_ok (exec_change_unmet up unmet)]
  rfl

theorem exec_release_down (down : s.down = true) (id token : Value) :
    exec (release id token) s = (.error .storeDown, s) := by
  rw [release, exec_bind_error (exec_change_down down _)]

/-! ### The status -/

theorem exec_write?_down (down : s.down = true) (id token : Value) (ticketId : String)
    (status : ApprovalStatus) (time : Moment) (releasing : Bool) :
    exec (write? id token ticketId status time releasing) s = (.error .storeDown, s) := by
  rw [write?, exec_bind_error (exec_update_down down _)]

/-- The holder of the lease changes the status, unless the key that goes with it is another request's. -/
theorem exec_write?_held (up : s.down = false) (shown : ledger.ShownBy s.store)
    (member : holding ∈ ledger.requests) (held : holding.holder? = some token)
    (status : ApprovalStatus) {time : Moment} (within : time.leavesCalendar = false)
    (releasing : Bool) :
    ((∀ other ∈ ledger.requests, other ≠ holding →
        other.key ≠ (holding.moved status time releasing).key) ∧
      ∃ table journal,
        exec (write? (.text holding.request.id) (.text token) holding.request.ticketId status time
            releasing) s =
          (.ok (some (holding.request.moved status time)),
            { s with store := s.store.setTable .requests table, journal }) ∧
        (ledger.move holding.request.id status time releasing).ShownBy
          (s.store.setTable .requests table)) ∨
    ((∃ other ∈ ledger.requests, other ≠ holding ∧
        other.key = (holding.moved status time releasing).key) ∧
      exec (write? (.text holding.request.id) (.text token) holding.request.ticketId status time
          releasing) s = (.error (.store .keyTaken), s)) := by
  obtain ⟨located⟩ := shown.located member
  obtain ⟨after, made, changed⟩ := moveTo_shown located.shown status within releasing
  rcases located.exec_change up shown (heldBy_decides holding.request.id token)
      (f := fun holding => holding.moved status time releasing)
      (fun here different => by simp [withId_apart here different])
      (by simp [withId_shown located.shown, holder_shown located.shown, held])
      made changed rfl with
    ⟨free, table, ran, shows⟩ | ⟨⟨other, inside, taken⟩, ran⟩
  · refine Or.inl ⟨fun other inside different => free other ((located.mem_others other).2 ⟨inside, different⟩),
      table, ?_⟩
    have updated : exec (update .requests (heldBy (.text holding.request.id) (.text token))
        (moveTo holding.request.ticketId (.text holding.request.id) status time releasing)) s =
          (.ok (some after), { s with store := s.store.setTable .requests table }) := by
      rw [update, exec_bind_ok ran]
      rfl
    obtain ⟨journal, noted⟩ := exec_note .info .requestStore
      s!"Approval request {(Value.text holding.request.id).display} is now {status.name}"
      (details (.text holding.request.id) holding.request.ticketId status) false
      { s with store := s.store.setTable .requests table }
    refine ⟨journal, ?_, shows⟩
    rw [write?, exec_bind_ok updated]
    apply (exec_bind_ok noted _).trans
    rw [changed.reads]
    rfl
  · obtain ⟨known, different⟩ := (located.mem_others other).1 inside
    refine Or.inr ⟨⟨other, known, different, taken⟩, ?_⟩
    rw [write?, update]
    exact exec_bind_error (exec_bind_error ran _) _

/-- Who does not hold the lease changes nothing. -/
theorem exec_write?_other (up : s.down = false) (shown : ledger.ShownBy s.store)
    (other : ∀ holding ∈ ledger.requests, holding.request.id = id → holding.holder? ≠ some token)
    (ticketId : String) (status : ApprovalStatus) (time : Moment) (releasing : Bool) :
    exec (write? (.text id) (.text token) ticketId status time releasing) s = (.ok none, s) := by
  have unmet := Table.updateFirst_unmet (heldBy_decides id token)
    (shown.unmet fun here known => heldBy_apart here (other _ known))
    Collection.requests.uniqueKeys (moveTo ticketId (.text id) status time releasing)
  rw [write?, exec_bind_ok (exec_update_unmet .requests up unmet)]
  rfl

end RequestStore

end Countersign
