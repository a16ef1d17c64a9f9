/-
Module: Countersign.Proofs.Ledger.Proposals
Purpose: What opening a request answers to who names a ticket, roles and rules by texts.
Main exports: Approval.Ask, Approval.Ask.Storable, Approval.Ask.admissionFault?_iff,
  Approval.exec_openRequest_ask, Approval.exec_openRequest_ask_cases
-/
import Countersign.Proofs.Catalog.Requirements
import Countersign.Proofs.Ledger.Keys
import Countersign.Proofs.Ledger.Opening

namespace Countersign

open Service

/-!
A caller who sends texts is refused for three causes alone once there is a role and a ticket that is not approved:
the store does not keep one of the texts, or it has another request with the new id or with the id of the ticket
as its key. Nothing is stored then. In all other cases a pending request of the roles is stored, each role once
and in the order in which it first came.
-/

/-! ### Fields of names that differ -/

namespace Fields

/-- A field of a new name is put behind all others. -/
theorem put_of_fresh {fields : Fields} {name : String} (fresh : name ∉ fields.map Prod.fst) (value : Value) :
    Fields.put fields name value = fields ++ [(name, value)] := by
  induction fields with
  | nil => rfl
  | cons first rest ih =>
      obtain ⟨key, kept⟩ := first
      rw [List.map_cons, List.mem_cons, not_or] at fresh
      rw [Fields.put, if_neg (Ne.symm fresh.1), ih fresh.2]
      rfl

/-- Fields of names that differ are put one behind the other. -/
theorem foldl_put {value : Value} (fields : Fields) {names : List String} (nodup : names.Nodup)
    (fresh : ∀ name ∈ names, name ∉ fields.map Prod.fst) :
    names.foldl (fun all name => Fields.put all name value) fields = fields ++ names.map (·, value) := by
  induction names generalizing fields with
  | nil => simp
  | cons name rest ih =>
      obtain ⟨alone, others⟩ := List.nodup_cons.1 nodup
      have new : Fields.put fields name value = fields ++ [(name, value)] :=
        put_of_fresh (fresh name (by simp)) value
      rw [List.foldl_cons, new, ih _ others, List.append_assoc]
      · rfl
      · intro other within same
        rw [List.map_append, List.map_singleton, List.mem_append, List.mem_singleton] at same
        rcases same with known | rfl
        · exact fresh other (List.mem_cons_of_mem _ within) known
        · exact alone within

end Fields

/-- The last entry of a list whose documents are known has the last document. -/
theorem last_shownBy {α : Type} {shows : α → Document → Prop} {entries : List α} {documents : List Document} {a : α}
    {document : Document} (related : List.Forall₂ shows (entries ++ [a]) (documents ++ [document])) :
    shows a document := by
  obtain ⟨front, last, back, same, -, here, behind⟩ := split_of_documents related
  cases behind
  obtain ⟨-, tail⟩ := List.append_inj' same rfl
  obtain rfl := (List.cons.inj tail).1
  exact here

namespace Approval

/-- What a caller sends who names a ticket, roles, what triggered the request, and the rules of each role if they
are told. -/
structure Ask where
  ticketId : String
  roles : List String
  rule : String
  rules : Option (List (String × List String)) := none

/-- A record of lists of names. -/
def namesRecord (entries : List (String × List String)) : Value :=
  .record (entries.map fun (name, names) => (name, .ofTexts names))

namespace Ask

/-- The roles that are given, each once, in the order in which they first come. -/
def approvers (ask : Ask) : List String := (ask.roles.filter (· ≠ "")).eraseDups

/-- The rules that each role answers for: those that are told, else all that triggered. -/
def roleToRules (ask : Ask) : List (String × List String) :=
  ask.rules.getD (ask.approvers.map fun role => (role, splitNames ask.rule))

def proposal (ask : Ask) : Proposal :=
  { ticketId := .text ask.ticketId
    approvers := .ofTexts ask.roles
    ruleTriggered := .text ask.rule
    roleToRules := (ask.rules.map namesRecord).getD .null }

/-- The request that is asked for, with an id and a time. -/
def request (ask : Ask) (id : String) (time : Moment) : Request :=
  { id, ticketId := ask.ticketId, approvers := ask.approvers, ruleTriggered := ask.rule
    roleToRules := ask.roleToRules, status := .pending, version := 1, createdAt := time, updatedAt := time
    decidedAt := none }

/-- Whether the store keeps what the request says. -/
def Storable (ask : Ask) : Prop :=
  (∀ role ∈ ask.approvers, Text.hasHalf role = false) ∧ Text.hasHalf ask.rule = false ∧
    (Requirements.namesValue ask.roleToRules).storeFault? = none

theorem mem_approvers {ask : Ask} {role : String} : role ∈ ask.approvers ↔ role ∈ ask.roles ∧ role ≠ "" := by
  simp [approvers]

end Ask

/-! ### Checks of what is sent -/

theorem foldl_addOnce_texts (seen names : List String) :
    (names.map Value.text).foldl addOnce (seen.map .text) =
      (names.foldl Requirements.addOnce seen).map .text := by
  induction names generalizing seen with
  | nil => rfl
  | cons name rest ih =>
      have once : addOnce (seen.map .text) (.text name) = (Requirements.addOnce seen name).map .text := by
        have known : ((seen.map Value.text).any (·.same (.text name))) = seen.contains name := by
          rw [List.any_map, List.contains_eq_any_beq]
          refine List.any_congr rfl fun other => ?_
          simp [Value.same, Value.sameLeaf, Bool.beq_comm]
        rw [addOnce, Requirements.addOnce, known]
        split <;> simp
      rw [List.map_cons, List.foldl_cons, List.foldl_cons, once, ih]

theorem rolesOf_ask (ask : Ask) : rolesOf ask.proposal.approvers = .ok (ask.approvers.map .text) := by
  have given : (ask.roles.map Value.text).filter Value.truthy = (ask.roles.filter (· ≠ "")).map .text := by
    rw [List.filter_map]
    congr 1
    refine List.filter_congr fun role _ => ?_
    by_cases empty : role = "" <;> simp [Value.truthy, empty]
  have texts : ((ask.roles.filter (· ≠ "")).map Value.text).all isKey = true := by simp [isKey]
  have once := foldl_addOnce_texts [] (ask.roles.filter (· ≠ ""))
  rw [← Requirements.distinct, Requirements.distinct_eq_eraseDups] at once
  have checked : rolesOf ask.proposal.approvers = if ((ask.roles.map Value.text).filter Value.truthy).all isKey then
      .ok (((ask.roles.map Value.text).filter Value.truthy).foldl addOnce []) else .error .notUsable := rfl
  rw [checked, given, if_pos texts]
  exact congrArg Except.ok once

theorem rolesToRules_ask (ask : Ask) :
    rolesToRules (ask.approvers.map .text) ask.proposal = .ok (namesRecord ask.roleToRules) := by
  obtain ⟨ticketId, roles, rule, rules⟩ := ask
  cases rules with
  | some entries => rfl
  | none =>
      have put := @Fields.foldl_put (.ofTexts (splitNames rule)) [] _
        (nodup_eraseDups (roles.filter (· ≠ ""))) (by simp)
      simp only [rolesToRules, Ask.proposal, Option.map_none, Option.getD_none, Except.ok.injEq, namesRecord,
        Ask.roleToRules, Ask.approvers, Value.record.injEq, List.foldl_map, List.map_map] at put ⊢
      exact put

/-- A record of lists of names is read. -/
theorem entries_namesRecord (entries : List (String × List String)) :
    Reader.entries Reader.texts (namesRecord entries) = .accepted entries := by
  induction entries with
  | nil => rfl
  | cons first rest ih =>
      obtain ⟨name, names⟩ := first
      simp only [Reader.entries, namesRecord, List.map_cons, Reader.entriesOf, Reader.texts_ofTexts] at ih ⊢
      rw [ih]
      rfl

/-- What is sent makes the request that is asked for. -/
theorem check_ask {ask : Ask} (some : ask.approvers ≠ []) (id : String) (time : Moment) :
    Request.check (requested ask.proposal (ask.approvers.map .text) (namesRecord ask.roleToRules) id time) =
      .accepted (ask.request id time) := by
  unfold requested Ask.proposal
  refine Request.check_eq_accepted_iff.2 ⟨?_, ?_, ?_, ?_, ?_, ?_, ?_, ?_, ?_, ?_⟩
  · exact Fields.required_text_iff.2 (by simp [Ask.request])
  · exact Fields.required_text_iff.2 (by simp [Ask.request])
  · exact Fields.required_eq_accepted_iff.2
      ⟨.ofTexts ask.approvers, by simp [Value.ofTexts], Reader.someItems_ofTexts some⟩
  · exact Fields.required_text_iff.2 (by simp [Ask.request])
  · exact (Fields.optional_of_get? (v := namesRecord ask.roleToRules) (by simp)).2 (entries_namesRecord _)
  · exact (Fields.optional_of_get? (v := .text ApprovalStatus.pending.name) (by simp)).2 (Reader.choice_status _)
  · exact (Fields.optional_of_get? (v := .int 1) (by simp)).2 rfl
  · exact Fields.required_eq_accepted_iff.2 ⟨.moment time, by simp, rfl⟩
  · exact Fields.required_eq_accepted_iff.2 ⟨.moment time, by simp, rfl⟩
  · unfold Fields.optional
    simp [Ask.request]

end Approval

/-! ### What the store keeps -/

namespace Approval

/-- The store takes the request that is asked for when it keeps what the request says. -/
theorem Ask.admissionFault?_iff {ask : Ask} {id : String} {time : Moment}
    (whole : Text.hasHalf id = false) (timely : time.leavesCalendar = false) :
    Document.admissionFault? (ask.request id time).document = none ↔
      Text.hasHalf ask.ticketId = false ∧ ask.Storable := by
  have names : (Fields.names (ask.request id time).document).any Filter.isWord = false ∧
      ∀ name ∈ Fields.names (ask.request id time).document, Value.nameFault? name = none := by
    change (["approval_request_id", "ticket_id", "required_approvers", "rule_triggered", "role_to_rules", "status",
      "version", "created_at", "updated_at", "decided_at", "_id", "active_key", "locked_by",
      "lock_expires_at"].any Filter.isWord = false) ∧
      ∀ name ∈ ["approval_request_id", "ticket_id", "required_approvers", "rule_triggered", "role_to_rules",
        "status", "version", "created_at", "updated_at", "decided_at", "_id", "active_key", "locked_by",
        "lock_expires_at"], Value.nameFault? name = none
    decide +kernel
  have kept := names.2
  have named : (Value.text ApprovalStatus.pending.name).storeFault? = none :=
    Value.storeFault?_text_iff.2 (by decide +kernel)
  have numbered : (Value.int 1).storeFault? = none := by decide +kernel
  have timed : (Value.moment time).storeFault? = none := Value.storeFault?_moment timely
  have nothing : Value.null.storeFault? = none := rfl
  have identity : Fields.get? (ask.request id time).document Document.identity = some (.text id) := by
    simp [Request.document, Request.fields, Ask.request, Document.identity]
  have stored : Value.fieldsStoreFault? (ask.request id time).document = none ↔
      Text.hasHalf ask.ticketId = false ∧ ask.Storable := by
    simp only [Request.document, Request.fields, Ask.request, Request.activeKey, ApprovalStatus.isTerminal,
      Fields.names, List.cons_append, List.nil_append, List.map_cons, List.map_nil, List.forall_mem_cons,
      Bool.false_eq_true, if_false] at kept ⊢
    obtain ⟨n1, n2, n3, n4, n5, n6, n7, n8, n9, n10, n11, n12, n13, n14, -⟩ := kept
    simp only [Value.fieldsStoreFault?, Option.or_eq_none_iff, n1, n2, n3, n4, n5, n6, n7, n8, n9, n10, n11, n12,
      n13, n14, named, numbered, timed, nothing, Value.storeFault?_text_iff, Value.storeFault?_ofTexts_iff, whole,
      Ask.Storable, true_and, and_true]
    tauto
  rw [Document.admissionFault?, if_neg (by simp [names.1]), Option.or_eq_none_iff, stored, identity]
  simp [Document.canIdentify]

/-! ### Opening what is asked for -/

variable {ledger : Ledger} {s : ServiceState} {mark : TicketMark} {ask : Ask}

/-- The request that opening comes to store, with the next number. -/
def Ask.next (ask : Ask) (s : ServiceState) : Request :=
  ask.request (idText "APR" (s.taken "APR" + 1)) (Moment.ofClock s.clock)

/-- For a ticket that is there and not approved, the roles that are asked for are vetted. -/
theorem exec_vet_ask (up : s.down = false) (shown : ledger.ShownBy s.store) (member : mark ∈ ledger.tickets)
    (undecided : mark.status ≠ .approved) (about : ask.ticketId = mark.id) (some : ask.approvers ≠ []) :
    exec (vet ask.proposal) s = (.ok (ask.approvers.map .text), s) := by
  obtain ⟨-, -, ticket, -, read, -, same⟩ := TicketStore.exec_get_known up shown member
  have found : exec (TicketStore.get ask.proposal.ticketId) s = (.ok ticket, s) := by
    rw [← read, ← about]
    rfl
  unfold vet
  rw [rolesOf_ask]
  refine (exec_bind_ok (exec_settle _) _).trans ?_
  rw [if_neg (by simpa using some)]
  refine (exec_bind_ok found _).trans ?_
  rw [if_neg (by rw [same]; exact undecided)]
  rfl

/-- What is asked for is let pass with its roles, and it names some. -/
theorem of_vet_ask {s' : ServiceState} {roles : List Value}
    (vetted : exec (vet ask.proposal) s = (.ok roles, s')) :
    ask.approvers ≠ [] ∧ roles = ask.approvers.map .text := by
  unfold vet at vetted
  rw [rolesOf_ask, exec_bind_ok (exec_settle _)] at vetted
  split at vetted
  · obtain ⟨_, _, refused, -⟩ := exists_of_exec_bind vetted
    cases refused
  next given =>
  obtain ⟨ticket, _, -, vetted⟩ := exists_of_exec_bind vetted
  split at vetted
  · obtain ⟨_, _, refused, -⟩ := exists_of_exec_bind vetted
    cases refused
  cases vetted
  exact ⟨by simpa using given, rfl⟩

/-- What is asked for is stored as the next request. -/
theorem exec_enter_ask (some : ask.approvers ≠ []) :
    exec (enter ask.proposal (ask.approvers.map .text)) s =
      exec (RequestStore.add (ask.next s)) (s.afterNew "APR") := by
  have checked := check_ask some (idText "APR" (s.taken "APR" + 1)) (Moment.ofClock s.clock)
  unfold enter
  rw [rolesToRules_ask]
  refine (exec_bind_ok (exec_settle _) _).trans ?_
  refine (exec_bind_ok (exec_now s) _).trans ?_
  refine (exec_bind_ok (exec_newId "APR" s) _).trans ?_
  rw [checked]
  exact exec_bind_ok (exec_accept_accepted _ _) _

/-- For a ticket that is there and not approved, opening what is asked for comes to storing the next request. -/
theorem exec_openRequest_ask (up : s.down = false) (shown : ledger.ShownBy s.store)
    (member : mark ∈ ledger.tickets) (undecided : mark.status ≠ .approved) (about : ask.ticketId = mark.id)
    (some : ask.approvers ≠ []) :
    exec (openRequest ask.proposal) s = exec (entering (ask.next s)) (s.afterNew "APR") := by
  rw [openRequest_eq, exec_bind_ok (exec_vet_ask up shown member undecided about some), exec_bind,
    exec_enter_ask some, entering, exec_bind]

/-- For a ticket that is there and not approved, what is asked for is not stored, since the store does not keep it or
has a request with its id or its key, or it is put behind all other requests and the ticket is told. -/
theorem exec_openRequest_ask_cases (up : s.down = false) (shown : ledger.ShownBy s.store)
    (member : mark ∈ ledger.tickets) (undecided : mark.status ≠ .approved) (about : ask.ticketId = mark.id)
    (some : ask.approvers ≠ []) :
    (¬ ask.Storable ∧ ∃ fault,
      exec (openRequest ask.proposal) s = (.error (.store fault), s.afterNew "APR")) ∨
    (ask.Storable ∧ ¬ RequestStore.Free ledger (ask.next s) ∧
      exec (openRequest ask.proposal) s = (.error (.refused (.requestActive mark.id)), s.afterNew "APR")) ∨
    (ask.Storable ∧ RequestStore.Free ledger (ask.next s) ∧ ∃ kept tickets journal,
      exec (openRequest ask.proposal) s = (.ok (ask.next s),
        { s.afterNew "APR" with
          store := (s.store.setTable .requests
            (s.store.requests ++ [Document.kept (ask.next s).document])).setTable .tickets tickets
          journal }) ∧
      (ask.next s).KeptAs kept ∧
      ((ledger.enter kept).tell mark.id .pending).ShownBy ((s.store.setTable .requests
        (s.store.requests ++ [Document.kept (ask.next s).document])).setTable .tickets tickets)) := by
  have wholeId : Text.hasHalf (idText "APR" (s.taken "APR" + 1)) = false :=
    Text.hasHalf_of_unmarked (idText_plain (.inl rfl) _).2
  obtain ⟨-, -, -, _, -, -, -, -, here, -⟩ := split_of_mem shown.tickets member
  have storable : Document.admissionFault? (ask.next s).document = none ↔ ask.Storable := by
    have iff := @Ask.admissionFault?_iff ask _ _ wholeId (Moment.leavesCalendar_ofClock s.clock)
    rwa [about, and_iff_right here.wholeId] at iff
  rw [exec_openRequest_ask up shown member undecided about some, ← storable, ← about]
  rcases @exec_entering_cases ledger (s.afterNew "APR") up shown (ask.next s) some rfl with
    ⟨fault, unfit, failed⟩ | ended | ended
  · refine Or.inl ⟨?_, fault, failed⟩
    rw [unfit]
    exact Option.some_ne_none fault
  · exact Or.inr (Or.inl ended)
  · exact Or.inr (Or.inr ended)

end Approval

end Countersign
