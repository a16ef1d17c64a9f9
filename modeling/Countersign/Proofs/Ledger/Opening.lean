/-
Module: Countersign.Proofs.Ledger.Opening
Purpose: What opening a request does to the ledger.
Main exports: Request.KeptAs, Request.kept_shownBy, Ledger.enter, RequestStore.exec_add_cases,
  Approval.exec_entering_cases, Approval.exec_vet_cases, Approval.exec_enter_cases, Approval.exec_openRequest_opening
-/
import Countersign.Proofs.Commands.Parts
import Countersign.Proofs.Ledger.Leases
import Countersign.Proofs.Ledger.Tickets

namespace Countersign

open Service

/-!
A request that is opened is pending, stands behind all others, and its ticket is told so. The store keeps the
request as it was asked for, but for its times, of which it keeps milliseconds, and for names in which halves
of surrogate pairs had to be replaced.
-/

/-! ### Names that were written -/

namespace Reader

/-- Every value of a record is a list of texts. -/
def AllTexts (fields : Fields) : Prop := ∀ field ∈ fields, ∃ names, field.2 = .ofTexts names

theorem AllTexts.put {fields : Fields} (all : AllTexts fields) (name : String) (names : List String) :
    AllTexts (fields.put name (.ofTexts names)) := by
  induction fields with
  | nil =>
      intro field within
      obtain rfl := List.mem_singleton.mp within
      exact ⟨names, rfl⟩
  | cons first rest ih =>
      obtain ⟨key, value⟩ := first
      have behind := ih fun field within => all field (List.mem_cons_of_mem _ within)
      intro field within
      unfold Fields.put at within
      split at within
      · rcases List.mem_cons.mp within with rfl | later
        · exact ⟨names, rfl⟩
        · exact all field (List.mem_cons_of_mem _ later)
      · rcases List.mem_cons.mp within with rfl | later
        · exact all _ (by simp)
        · exact behind field later

theorem AllTexts.putAll {fields updates : Fields} (all : AllTexts fields) (more : AllTexts updates) :
    AllTexts (fields.putAll updates) := by
  induction updates generalizing fields with
  | nil => exact all
  | cons first rest ih =>
      obtain ⟨name, value⟩ := first
      obtain ⟨names, rfl⟩ : ∃ names, value = .ofTexts names :=
        more (name, value) (by simp)
      exact ih (all.put name names) fun field within => more field (List.mem_cons_of_mem _ within)

/-- A record of lists of texts is read, and the store keeps it as it is. -/
theorem entries_of_allTexts {fields : Fields} (all : AllTexts fields) :
    Value.storedFields fields = fields ∧
      ∃ found, entries texts (.record fields) = .accepted found ∧
        fields = found.map fun (name, names) => (name, .ofTexts names) := by
  induction fields with
  | nil => exact ⟨rfl, [], rfl, rfl⟩
  | cons first rest ih =>
      obtain ⟨name, value⟩ := first
      obtain ⟨names, rfl⟩ : ∃ names, value = .ofTexts names :=
        all (name, value) (by simp)
      obtain ⟨kept, found, read, same⟩ := ih fun field within => all field (List.mem_cons_of_mem _ within)
      refine ⟨by simp [Value.storedFields, Value.stored_ofTexts, kept], (name, names) :: found, ?_, by simp [same]⟩
      simp only [entries, entriesOf, texts_ofTexts] at read ⊢
      rw [read]
      rfl

/-- What is written of the rules of roles is a record of lists of texts. -/
theorem allTexts_written (given : List (String × List String)) :
    AllTexts (Dump.entries (given.map fun (name, names) => (name, .ofTexts names))) := by
  have all : AllTexts (given.map fun (name, names) => (name, .ofTexts names)) := by
    intro field within
    obtain ⟨entry, -, rfl⟩ := List.mem_map.mp within
    exact ⟨_, rfl⟩
  unfold Dump.entries
  split
  · apply AllTexts.putAll (fun field within => by cases within)
    intro field within
    obtain ⟨entry, inside, rfl⟩ := List.mem_map.mp within
    exact all entry inside
  · exact all

/-- It is read again, and it is the same unless a name has a half. -/
theorem entries_namesValue (given : List (String × List String)) :
    (Requirements.namesValue given).stored = Requirements.namesValue given ∧
      ∃ found, entries texts (Requirements.namesValue given) = .accepted found ∧
        ((∀ entry ∈ given, Text.hasHalf entry.1 = false) → found = given) := by
  let written : Fields := given.map fun (name, names) => (name, .ofTexts names)
  have replaced : AllTexts (Dump.entries written) := allTexts_written given
  obtain ⟨kept, found, read, same⟩ := entries_of_allTexts replaced
  refine ⟨congrArg Value.record kept, found, read, fun whole => ?_⟩
  have unchanged : Dump.entries written = written := by
    apply Dump.entries_of_whole
    intro field within
    obtain ⟨entry, inside, rfl⟩ := List.mem_map.mp within
    exact whole entry inside
  rw [unchanged] at same
  have injective : Function.Injective fun entry : String × List String =>
      ((entry.1, .ofTexts entry.2) : String × Value) := by
    rintro ⟨name, names⟩ ⟨other, others⟩ alike
    simp only [Prod.mk.injEq, Value.ofTexts, Value.list.injEq] at alike
    have texts : Function.Injective Value.text := fun _ _ => Value.text.inj
    rw [alike.1, List.map_injective_iff.2 texts alike.2]
  exact (List.map_injective_iff.2 injective same).symm

end Reader

/-! ### Requests as the store keeps them -/

/-- What the store keeps of a new request. -/
structure Request.KeptAs (request kept : Request) : Prop where
  id : kept.id = request.id
  ticketId : kept.ticketId = request.ticketId
  approvers : kept.approvers = request.approvers
  ruleTriggered : kept.ruleTriggered = request.ruleTriggered
  roleToRules : (∀ entry ∈ request.roleToRules, Text.hasHalf entry.1 = false) →
    kept.roleToRules = request.roleToRules
  status : kept.status = request.status
  version : kept.version = request.version
  createdAt : kept.createdAt = request.createdAt.stored
  updatedAt : kept.updatedAt = request.updatedAt.stored
  decidedAt : kept.decidedAt = request.decidedAt.map Moment.stored

namespace Request

variable {request : Request}

/-- What the store keeps of a field of a request. -/
theorem get?_kept (request : Request) (name : String) (v : Value)
    (found : Fields.get? request.fields name = some v) :
    Fields.get? (Document.kept request.document) name = some v.stored := by
  rw [Document.kept, Fields.get?_storedFields, document, Fields.get?_append, found]
  rfl

/-- What the store keeps beside the fields of a request. -/
theorem get?_kept_beside {name : String} (v : Value) (missing : Fields.get? request.fields name = none)
    (found : Fields.get? [("_id", .text request.id),
      ("active_key", .text (activeKey request.ticketId request.id request.status)),
      ("locked_by", .null), ("lock_expires_at", .null)] name = some v) :
    Fields.get? (Document.kept request.document) name = some v.stored := by
  rw [Document.kept, Fields.get?_storedFields, document, Fields.get?_append, missing]
  exact congrArg (Option.map Value.stored) found

theorem decidedAt_kept :
    Fields.optional (Document.kept request.document) "decided_at" none (Reader.nullable Reader.moment) =
      .accepted (request.decidedAt.map Moment.stored) := by
  cases decided : request.decidedAt with
  | none =>
      have found := request.get?_kept "decided_at" .null (by simp [fields, decided])
      rw [Fields.optional_of_get? found]
      rfl
  | some time =>
      have found := request.get?_kept "decided_at" (.moment time) (by simp [fields, decided])
      rw [Fields.optional_of_get? found]
      rfl

/-- The store keeps a request that has approvers, with nobody holding a lease on it. -/
theorem kept_shownBy (approved : request.approvers ≠ []) (wholeId : Text.hasHalf request.id = false)
    (wholeTicketId : Text.hasHalf request.ticketId = false) :
    ∃ kept, request.KeptAs kept ∧ (⟨kept, none⟩ : Holding).ShownBy (Document.kept request.document) := by
  obtain ⟨rulesKept, roleToRules, rulesRead, rulesSame⟩ := Reader.entries_namesValue request.roleToRules
  let kept : Request :=
    { request with
      roleToRules
      createdAt := request.createdAt.stored
      updatedAt := request.updatedAt.stored
      decidedAt := request.decidedAt.map Moment.stored }
  have approvers := request.get?_kept "required_approvers" (.ofTexts request.approvers) (by simp [fields])
  have rules := request.get?_kept "role_to_rules" (Requirements.namesValue request.roleToRules) (by simp [fields])
  have status := request.get?_kept "status" (.text request.status.name) (by simp [fields])
  have version := request.get?_kept "version" (.int request.version) (by simp [fields])
  rw [Value.stored_ofTexts] at approvers
  rw [rulesKept] at rules
  refine ⟨kept, ⟨rfl, rfl, rfl, rfl, rulesSame, rfl, rfl, rfl, rfl, rfl⟩, ?_⟩
  refine ⟨Request.check_eq_accepted_iff.2 ⟨?_, ?_, ?_, ?_, ?_, ?_, ?_, ?_, ?_, decidedAt_kept⟩,
    ?_, ?_, status, version, ?_, ?_, wholeId, wholeTicketId⟩
  · exact Fields.required_text_iff.2 (request.get?_kept "approval_request_id" (.text request.id) (by simp [fields]))
  · exact Fields.required_text_iff.2 (request.get?_kept "ticket_id" (.text request.ticketId) (by simp [fields]))
  · exact Fields.required_eq_accepted_iff.2 ⟨_, approvers, Reader.someItems_ofTexts approved⟩
  · exact Fields.required_text_iff.2
      (request.get?_kept "rule_triggered" (.text request.ruleTriggered) (by simp [fields]))
  · exact (Fields.optional_of_get? rules).2 rulesRead
  · exact (Fields.optional_of_get? status).2 (Reader.choice_status _)
  · exact (Fields.optional_of_get? version).2 rfl
  · exact Fields.required_eq_accepted_iff.2
      ⟨_, request.get?_kept "created_at" (.moment request.createdAt) (by simp [fields]), rfl⟩
  · exact Fields.required_eq_accepted_iff.2
      ⟨_, request.get?_kept "updated_at" (.moment request.updatedAt) (by simp [fields]), rfl⟩
  · exact get?_kept_beside (.text request.id) (by simp [fields]) (by simp)
  · exact get?_kept_beside (.text (activeKey request.ticketId request.id request.status)) (by simp [fields]) (by simp)
  · exact get?_kept_beside .null (by simp [fields]) (by simp)
  · exact get?_kept_beside .null (by simp [fields]) (by simp)

/-- So it keeps every request with approvers that it takes. -/
theorem kept_shownBy_of_admitted (approved : request.approvers ≠ [])
    (admitted : Document.admissionFault? request.document = none) :
    ∃ kept, request.KeptAs kept ∧ (⟨kept, none⟩ : Holding).ShownBy (Document.kept request.document) :=
  kept_shownBy approved
    (Value.storeFault?_text_iff.1 (Document.storeFault?_of_admitted "approval_request_id" admitted
      (by simp [document, fields])))
    (Value.storeFault?_text_iff.1 (Document.storeFault?_of_admitted "ticket_id" admitted
      (by simp [document, fields])))

end Request

namespace Ledger

/-- Put a request behind all others, with nobody holding a lease on it. -/
def enter (ledger : Ledger) (request : Request) : Ledger :=
  { ledger with requests := ledger.requests ++ [⟨request, none⟩] }

/-- What it takes to open a request for a ticket. -/
structure Admits (ledger : Ledger) (request : Request) : Prop where
  numbered : ∃ number, request.id = idText "APR" number
  pending : request.status = .pending
  version : request.version = 1
  undecided : request.decidedAt = none
  ticket : ∃ mark ∈ ledger.tickets, mark.id = request.ticketId ∧ mark.status ≠ .approved
  freshId : ∀ other ∈ ledger.requests, other.request.id ≠ request.id
  freshKey : ∀ other ∈ ledger.requests, other.key ≠ request.ticketId

end Ledger

namespace RequestStore

variable {ledger : Ledger} {s : ServiceState}

/-- What the store would then have no two requests share. -/
def Free (ledger : Ledger) (request : Request) : Prop :=
  ∀ other ∈ ledger.requests, other.request.id ≠ request.id ∧
    other.key ≠ Request.activeKey request.ticketId request.id request.status

/-- A new request is put behind all others, with an id and an active key of its own, or it is not stored: the
store refuses it, or another request has its id or its key. -/
theorem exec_add_cases (up : s.down = false) (shown : ledger.ShownBy s.store) {request : Request}
    (approved : request.approvers ≠ []) :
    (∃ fault, Document.admissionFault? request.document = some fault ∧
      exec (add request) s = (.error (.store fault), s)) ∨
    (Document.admissionFault? request.document = none ∧ ¬ Free ledger request ∧
      exec (add request) s = (.error (.refused (.requestActive request.ticketId)), s)) ∨
    (Document.admissionFault? request.document = none ∧ Free ledger request ∧ ∃ kept journal,
      exec (add request) s = (.ok request,
        { s with
          store := s.store.setTable .requests (s.store.requests ++ [Document.kept request.document]), journal }) ∧
      request.KeptAs kept ∧
      (ledger.enter kept).ShownBy
        (s.store.setTable .requests (s.store.requests ++ [Document.kept request.document]))) := by
  cases unfit : Document.admissionFault? request.document with
  | some fault => exact Or.inl ⟨fault, rfl, by rw [add, exec_bind_error (exec_insert_of_fault .requests up unfit)]⟩
  | none =>
      obtain ⟨kept, keptAs, here⟩ := Request.kept_shownBy_of_admitted approved unfit
      have free_iff : Free ledger request ↔
          ∀ other ∈ ledger.requests, ∀ key ∈ Holding.keys, key.2 other ≠ key.2 ⟨kept, none⟩ := by
        simp only [Holding.apart_iff, Free, Holding.key, keptAs.id, keptAs.ticketId, keptAs.status]
      rcases Holding.keyed.insert_cases shown.requests unfit here with
        ⟨⟨other, within, key, known, shared⟩, made⟩ | ⟨alone, related, made⟩
      · refine Or.inr (Or.inl ⟨rfl, fun free => free_iff.1 free other within key known shared, ?_⟩)
        rw [add, exec_bind_ok (exec_insert_taken .requests up made)]
        rfl
      · obtain ⟨journal, noted⟩ := exec_note .info .requestStore
          s!"Created approval request: {request.id}"
          (details (.text request.id) request.ticketId request.status) false
          { s with store := s.store.setTable .requests (s.store.requests ++ [Document.kept request.document]) }
        refine Or.inr (Or.inr ⟨rfl, free_iff.2 alone, kept, journal, ?_, keptAs, related, shown.actions,
          shown.tickets, ?_⟩)
        · rw [add, exec_bind_ok (exec_insert .requests up made), if_pos rfl]
          exact exec_bind_ok noted (fun _ => pure request)
        · refine ⟨nodup_concat shown.sound.requestIds fun other within => ?_,
            nodup_concat shown.sound.activeKeys fun other within => ?_,
            shown.sound.actionIds, shown.sound.actionKeys, shown.sound.ticketIds⟩
          · exact (Holding.apart_iff.1 (alone other within)).1
          · exact (Holding.apart_iff.1 (alone other within)).2

end RequestStore

namespace Approval

variable {ledger : Ledger} {s : ServiceState}

/-- Store a request, and tell its ticket. -/
def entering (request : Request) : Service Request := do
  let request ← RequestStore.add request
  tellTicket request
  return request

/-- A request is put behind all others and its ticket told so, or nothing changes: the store refuses the request, or
another request has its id or its key. -/
theorem exec_entering_cases (up : s.down = false) (shown : ledger.ShownBy s.store) {request : Request}
    (approved : request.approvers ≠ []) (pending : request.status = .pending) :
    (∃ fault, Document.admissionFault? request.document = some fault ∧
      exec (entering request) s = (.error (.store fault), s)) ∨
    (Document.admissionFault? request.document = none ∧ ¬ RequestStore.Free ledger request ∧
      exec (entering request) s = (.error (.refused (.requestActive request.ticketId)), s)) ∨
    (Document.admissionFault? request.document = none ∧ RequestStore.Free ledger request ∧
      ∃ kept tickets journal,
        exec (entering request) s = (.ok request,
          { s with
            store := (s.store.setTable .requests
              (s.store.requests ++ [Document.kept request.document])).setTable .tickets tickets
            journal }) ∧
        request.KeptAs kept ∧
        ((ledger.enter kept).tell request.ticketId .pending).ShownBy ((s.store.setTable .requests
          (s.store.requests ++ [Document.kept request.document])).setTable .tickets tickets)) := by
  rcases RequestStore.exec_add_cases up shown approved with
    ⟨fault, unfit, failed⟩ | ⟨admitted, taken, refused⟩ | ⟨admitted, free, kept, journal, added, keptAs, shows⟩
  · exact Or.inl ⟨fault, unfit, exec_bind_error failed _⟩
  · exact Or.inr (Or.inl ⟨admitted, taken, exec_bind_error refused _⟩)
  · obtain ⟨tickets, later, spread, tells⟩ := exec_tellTicket
      (s := { s with
        store := s.store.setTable .requests (s.store.requests ++ [Document.kept request.document]), journal })
      up shows request
    rw [pending] at tells
    refine Or.inr (Or.inr ⟨admitted, free, kept, tickets, later, ?_, keptAs, tells⟩)
    exact (exec_bind_ok added _).trans (exec_bind_ok spread _)

/-- A new request whose id and whose key are free, for a ticket that is there and not approved, may be opened. -/
theorem OpenedAs.admits {proposal : Proposal} {number : Nat} {request kept : Request} {mark : TicketMark}
    (opened : OpenedAs proposal (idText "APR" number) request) (keptAs : request.KeptAs kept)
    (free : RequestStore.Free ledger request) (member : mark ∈ ledger.tickets) (about : mark.id = request.ticketId)
    (undecided : mark.status ≠ .approved) : ledger.Admits kept where
  numbered := ⟨number, keptAs.id.trans opened.id⟩
  pending := keptAs.status.trans opened.pending
  version := keptAs.version.trans opened.version
  undecided := by
    rw [keptAs.decidedAt, opened.undecided]
    rfl
  ticket := ⟨mark, member, about.trans keptAs.ticketId.symm, undecided⟩
  freshId other within := keptAs.id ▸ (free other within).1
  freshKey other within := by
    have apart := (free other within).2
    rw [opened.pending] at apart
    exact keptAs.ticketId ▸ apart

/-- What is asked for is refused, or it names roles, and its ticket is found and not approved. -/
theorem exec_vet_cases (shown : ledger.ShownBy s.store) (proposal : Proposal) :
    (∃ failure, exec (vet proposal) s = (.error failure, s)) ∨
    ∃ roles mark document, exec (vet proposal) s = (.ok roles, s) ∧ s.down = false ∧
      Nonempty (ledger.FirstTicket s.store (TicketStore.withId proposal.ticketId) mark document) ∧
      mark.status ≠ .approved := by
  unfold vet
  rw [exec_bind, exec_settle]
  cases rolesOf proposal.approvers with
  | error failure => exact Or.inl ⟨failure, rfl⟩
  | ok roles =>
  dsimp only
  by_cases none : roles.isEmpty = true
  · rw [if_pos none]
    exact Or.inl ⟨_, rfl⟩
  rw [if_neg none, exec_bind]
  cases looked : exec (TicketStore.get proposal.ticketId) s with
  | mk found s' =>
  obtain ⟨rfl, known⟩ := TicketStore.of_exec_get shown looked
  cases found with
  | error failure => exact Or.inl ⟨failure, rfl⟩
  | ok ticket =>
  obtain ⟨up, mark, document, first, -, sameStatus⟩ := known ticket rfl
  dsimp only
  by_cases decided : ticket.status = .approved
  · rw [if_pos decided]
    exact Or.inl ⟨_, rfl⟩
  · rw [if_neg decided]
    exact Or.inr ⟨roles, mark, document, rfl, up, first, sameStatus ▸ decided⟩

/-- Checking what is asked for changes nothing. -/
theorem exec_vet_state (shown : ledger.ShownBy s.store) (proposal : Proposal) : (exec (vet proposal) s).2 = s := by
  rcases exec_vet_cases shown proposal with ⟨failure, failed⟩ | ⟨roles, mark, document, vetted, -⟩
  · rw [failed]
  · rw [vetted]

/-- A request is stored behind all others, or at most the number of its id is taken. -/
theorem exec_enter_cases (up : s.down = false) (shown : ledger.ShownBy s.store) (proposal : Proposal)
    (roles : List Value) :
    (∃ failure s', exec (enter proposal roles) s = (.error failure, s') ∧ (s' = s ∨ s' = s.afterNew "APR")) ∨
    ∃ request kept store journal,
      exec (enter proposal roles) s = (.ok request, { s.afterNew "APR" with store, journal }) ∧
      OpenedAs proposal (idText "APR" (s.taken "APR" + 1)) request ∧ request.KeptAs kept ∧
      RequestStore.Free ledger request ∧ (ledger.enter kept).ShownBy store := by
  unfold enter
  rw [exec_bind, exec_settle]
  cases rolesToRules roles proposal with
  | error failure => exact Or.inl ⟨failure, s, rfl, Or.inl rfl⟩
  | ok roleToRules =>
  dsimp only
  rw [exec_bind, exec_now]
  dsimp only
  rw [exec_bind_ok (exec_newId "APR" s)]
  cases checked : Request.check (requested proposal roles roleToRules (idText "APR" (s.taken "APR" + 1))
    (Moment.ofClock s.clock)) with
  | refused faults => exact Or.inl ⟨_, s.afterNew "APR", rfl, Or.inr rfl⟩
  | accepted request =>
  have opened := openedAs_of_check checked
  rw [exec_bind_ok (exec_accept_accepted request _)]
  rcases RequestStore.exec_add_cases (s := s.afterNew "APR") up shown opened.approved with
    ⟨fault, -, failed⟩ | ⟨-, -, refused⟩ | ⟨-, free, kept, journal, added, keptAs, shows⟩
  · exact Or.inl ⟨_, _, failed, Or.inr rfl⟩
  · exact Or.inl ⟨_, _, refused, Or.inr rfl⟩
  · exact Or.inr ⟨request, kept, _, journal, added, opened, keptAs, free, shows⟩

/-- How opening a request goes: nothing but the number of its id is taken, or it is put behind all others and its
ticket told so. -/
inductive Opening (ledger : Ledger) (proposal : Proposal) (s : ServiceState) :
    Except Failure Request × ServiceState → Prop where
  | failed (failure : Failure) : Opening ledger proposal s (.error failure, s)
  | spent (failure : Failure) : Opening ledger proposal s (.error failure, s.afterNew "APR")
  | opened (request : Request) {kept : Request} {store : Store} (journal : List Entry) (admits : ledger.Admits kept)
      (shows : ((ledger.enter kept).tell kept.ticketId .pending).ShownBy store)
      (about : proposal.ticketId = .text kept.ticketId) :
      Opening ledger proposal s (.ok request, { s.afterNew "APR" with store, journal })

theorem exec_openRequest_opening (shown : ledger.ShownBy s.store) (proposal : Proposal) :
    Opening ledger proposal s (exec (openRequest proposal) s) := by
  rw [openRequest_eq]
  rcases exec_vet_cases shown proposal with ⟨failure, failed⟩ | ⟨roles, mark, document, vetted, up, ⟨first⟩, undecided⟩
  · rw [exec_bind_error failed]
    exact .failed failure
  rw [exec_bind_ok vetted]
  rcases exec_enter_cases up shown proposal roles with
    ⟨failure, s', failed, rfl | rfl⟩ | ⟨request, kept, store, journal, entered, opened, keptAs, free, shows⟩
  · rw [exec_bind_error failed]
    exact .failed failure
  · rw [exec_bind_error failed]
    exact .spent failure
  obtain ⟨tickets, later, told, tells⟩ :=
    exec_tellTicket (s := { s.afterNew "APR" with store, journal }) up shows request
  rw [opened.pending, ← keptAs.ticketId] at tells
  rw [opened.ticketId] at first
  rw [exec_bind_ok entered, exec_bind_ok told]
  exact .opened request later (opened.admits keptAs free first.member first.id_eq undecided) tells
    (opened.ticketId.trans (congrArg Value.text keptAs.ticketId.symm))

end Approval

end Countersign
