/-
Module: Countersign.Proofs.Ledger.Recording
Purpose: What recording an action answers and does to the ledger.
Main exports: Action.admissionFault?_document_iff, Trail.isKept, Trail.exec_append_cases, Trail.Recorded,
  Trail.Misses, Trail.exec_record_cases
-/
import Countersign.Proofs.Ledger.Keys
import Countersign.Proofs.Ledger.Trail

namespace Countersign

open Service

/-!
An action is recorded at the end of the trail or not at all. Whether the store keeps it hangs on its role, its
comment and its place alone, and what it keeps is recorded unless another action has its id or its key.
-/

/-! ### What the store keeps -/

theorem Value.ofText?_injective : Function.Injective Value.ofText? := by
  intro first second same
  cases first <;> cases second <;> simp_all [ofText?]

/-- The store takes an action whose place is a number of 64 bits and in which no text holds half of a surrogate
pair. -/
theorem Action.admissionFault?_document_iff {action : Action}
    (timely : action.createdAt.leavesCalendar = false) :
    Document.admissionFault? action.document = none ↔
      (Text.hasHalf action.id = false ∧ Text.hasHalf action.requestId = false ∧
        Text.hasHalf action.role = false ∧ Text.hasHalf action.key = false) ∧
      fitsWord action.sequence = true ∧ ∀ comment ∈ action.comment, Text.hasHalf comment = false := by
  have names : (Fields.names action.document).any Filter.isWord = false ∧
      ∀ name ∈ Fields.names action.document, Value.nameFault? name = none := by
    change (["action_id", "approval_request_id", "approver_role", "action", "comment", "sequence",
      "idempotency_key", "created_at", "_id"].any Filter.isWord = false) ∧
      ∀ name ∈ ["action_id", "approval_request_id", "approver_role", "action", "comment", "sequence",
        "idempotency_key", "created_at", "_id"], Value.nameFault? name = none
    decide +kernel
  have whole (text : String) : (Value.text text).storeFault? = none ↔ Text.hasHalf text = false := by
    simp [Value.storeFault?]
  have decided : (Value.text action.decision.name).storeFault? = none := by
    rw [whole]
    cases action.decision <;> decide +kernel
  have placed : (Value.int action.sequence).storeFault? = none ↔ fitsWord action.sequence = true := by
    simp [Value.storeFault?]
  have timed : (Value.moment action.createdAt).storeFault? = none := Value.storeFault?_moment timely
  have commented : (Value.ofText? action.comment).storeFault? = none ↔
      ∀ comment ∈ action.comment, Text.hasHalf comment = false := by
    cases action.comment with
    | none => simp [Value.ofText?, Value.storeFault?]
    | some comment => simp [Value.ofText?, whole]
  have identity : Fields.get? action.document Document.identity = some (.text action.id) := by
    simp [document, fields, Document.identity]
  have stored : Value.fieldsStoreFault? action.document = none ↔
      (Text.hasHalf action.id = false ∧ Text.hasHalf action.requestId = false ∧
        Text.hasHalf action.role = false ∧ Text.hasHalf action.key = false) ∧
      fitsWord action.sequence = true ∧ ∀ comment ∈ action.comment, Text.hasHalf comment = false := by
    have kept := names.2
    simp only [document, fields, Fields.names, List.cons_append, List.nil_append, List.map_cons,
      List.map_nil, List.forall_mem_cons] at kept
    obtain ⟨n1, n2, n3, n4, n5, n6, n7, n8, n9, -⟩ := kept
    simp only [document, fields, List.cons_append, List.nil_append, Value.fieldsStoreFault?,
      Option.or_eq_none_iff, n1, n2, n3, n4, n5, n6, n7, n8, n9, whole, placed, timed, commented,
      decided, true_and, and_true]
    constructor
    · rintro ⟨id, requestId, role, comment, place, key, -⟩
      exact ⟨⟨id, requestId, role, key⟩, place, comment⟩
    · rintro ⟨⟨id, requestId, role, key⟩, place, comment⟩
      exact ⟨id, requestId, role, comment, place, key, id⟩
  rw [Document.admissionFault?, if_neg (by simp [names.1]), Option.or_eq_none_iff, stored, identity]
  simp [Document.canIdentify]

namespace Trail

variable {ledger : Ledger} {s : ServiceState}

/-- Whether the store keeps a comment, if there is one. -/
def keepsComment : Value → Bool
  | .null => true
  | .text s => !Text.hasHalf s
  | _ => false

/-- Whether the store keeps an action of a role with a comment at a place. A role that ends in the mark of
halves would have one with what follows it in the key. -/
def isKept (role comment : Value) (place : Int) : Bool :=
  fitsWord place && role.text?.any (fun name => !Text.hasHalf (name ++ ":")) && keepsComment comment

theorem keepsComment_iff {comment : Value} :
    keepsComment comment = true ↔
      ∃ given : Option String, comment = .ofText? given ∧ ∀ s ∈ given, Text.hasHalf s = false := by
  constructor
  · intro fine
    cases comment with
    | null => exact ⟨none, rfl, by simp⟩
    | text s => exact ⟨some s, rfl, by simpa [keepsComment] using fine⟩
    | _ => cases fine
  · rintro ⟨given, rfl, fine⟩
    cases given with
    | none => rfl
    | some s => simpa [Value.ofText?, keepsComment] using fine

theorem isKept_iff {role comment : Value} {place : Int} :
    isKept role comment place = true ↔
      fitsWord place = true ∧ (∃ name, role = .text name ∧ Text.hasHalf (name ++ ":") = false) ∧
        ∃ given : Option String, comment = .ofText? given ∧ ∀ s ∈ given, Text.hasHalf s = false := by
  have named : role.text?.any (fun name => !Text.hasHalf (name ++ ":")) = true ↔
      ∃ name, role = .text name ∧ Text.hasHalf (name ++ ":") = false := by
    cases role <;> simp [Value.text?]
  rw [isKept, Bool.and_eq_true, Bool.and_eq_true, named, keepsComment_iff, and_assoc]

example : isKept (.text "CFO") .null 1 = true := by decide

/-! ### Recording -/

theorem exec_append_down (down : s.down = true) (action : Action) :
    exec (append action) s = (.error .storeDown, s) := by
  rw [append, exec_bind_error (exec_insert_down down _)]

/-- An action is put at the end of the trail, with an id and a key of its own, or it is not recorded: the store
refuses it, or another action has its id or its key. -/
theorem exec_append_cases (action : Action) (up : s.down = false) (shown : ledger.ShownBy s.store)
    (placed : 1 ≤ action.sequence) :
    (∃ fault, Document.admissionFault? action.document = some fault ∧
      exec (append action) s = (.error (.store fault), s)) ∨
    ((∃ other ∈ ledger.actions, other.id = action.id ∨ other.key = action.key) ∧
      exec (append action) s =
        (.error (.refused (.roleHasApproved (.text action.requestId) (.text action.role))), s)) ∨
    (Document.admissionFault? action.document = none ∧ ∃ table journal,
      exec (append action) s =
        (.ok action, { s with store := s.store.setTable .actions table, journal }) ∧
      (ledger.append action.kept).ShownBy (s.store.setTable .actions table)) := by
  cases unfit : Document.admissionFault? action.document with
  | some fault =>
      exact Or.inl ⟨fault, rfl, by rw [append, exec_bind_error (exec_insert_of_fault .actions up unfit)]⟩
  | none =>
      rcases Action.keyed.insert_cases shown.actions unfit (action.kept_shownBy placed) with
        ⟨⟨other, within, key, known, shared⟩, made⟩ | ⟨alone, related, made⟩
      · refine Or.inr (Or.inl ⟨⟨other, within, ?_⟩, ?_⟩)
        · simp only [Action.keys, List.mem_cons, List.not_mem_nil, or_false] at known
          rcases known with rfl | rfl
          · exact Or.inl shared
          · exact Or.inr shared
        · rw [append, exec_bind_ok (exec_insert_taken .actions up made)]
          rfl
      · obtain ⟨journal, noted⟩ := exec_note .info .trailStore
          s!"Recorded approval action: {action.decision.name}"
          [("approval_request_id", .text action.requestId), ("approver_role", .text action.role),
            ("action", .text action.decision.name)] false
          { s with store := s.store.setTable .actions (s.store.actions ++ [Document.kept action.document]) }
        refine Or.inr (Or.inr ⟨rfl, s.store.actions ++ [Document.kept action.document], journal, ?_,
          shown.requests, related, shown.tickets, ?_⟩)
        · rw [append, exec_bind_ok (exec_insert .actions up made), if_pos rfl]
          exact exec_bind_ok noted (fun _ => pure action)
        · refine ⟨shown.sound.requestIds, shown.sound.activeKeys, ?_, ?_, shown.sound.ticketIds⟩
          · exact nodup_concat shown.sound.actionIds fun other within =>
              alone other within ("action_id", Action.id) (by simp [Action.keys])
          · exact nodup_concat shown.sound.actionKeys fun other within =>
              alone other within ("idempotency_key", Action.key) (by simp [Action.keys])

/-- What an action that was recorded says. -/
structure Recorded (action : Action) (id : String) (role : Value) (decision : Decision)
    (sequence : Int) : Prop where
  requestId : action.requestId = id
  role : role = .text action.role
  decision : action.decision = decision
  sequence : action.sequence = sequence
  key : action.key = Action.keyOf id action.role action.decision action.id

/-- Why a new action with a number is not recorded. -/
inductive Misses (ledger : Ledger) (down : Bool) (id : String) (role : Value) (decision : Decision)
    (comment : Value) (place : Int) (number : Nat) : Failure → Prop where
  | unreached (isDown : down = true) : Misses ledger down id role decision comment place number .storeDown
  | malformed (faults : List Fault) (unkept : isKept role comment place = false) :
      Misses ledger down id role decision comment place number (.malformed faults)
  | unstorable (fault : StoreFault) (unkept : isKept role comment place = false) :
      Misses ledger down id role decision comment place number (.store fault)
  | taken (other : Action) (member : other ∈ ledger.actions)
      (shared : other.id = idText "ACT" number ∨
        other.key = Action.keyOf id role.display decision (idText "ACT" number)) :
      Misses ledger down id role decision comment place number (.refused (.roleHasApproved (.text id) role))

/-! ### What is asked for -/

/-- The fields of a new action with a number, as they are checked. -/
def asked (id : String) (role : Value) (decision : Decision) (sequence : Int) (comment : Value) (number : Nat)
    (clock : Int) : Fields :=
  [("action_id", .text (idText "ACT" number)), ("approval_request_id", .text id), ("approver_role", role),
    ("action", .text decision.name), ("comment", comment), ("sequence", .int sequence),
    ("idempotency_key", .text (Action.keyOf (Value.text id).display role.display decision (idText "ACT" number))),
    ("created_at", .moment (Moment.ofClock clock))]

section Asked

variable {id : String} {role comment : Value} {decision : Decision} {sequence : Int} {number : Nat} {clock : Int}
  {action : Action}

/-- An action that the schema takes says what was asked for. -/
theorem recorded_of_check (placed : 1 ≤ sequence)
    (checked : Action.check (asked id role decision sequence comment number clock) = .accepted action) :
    Recorded action id role decision sequence ∧ action.id = idText "ACT" number ∧
      comment = .ofText? action.comment ∧ action.createdAt.leavesCalendar = false := by
  have reads := Action.check_eq_accepted_iff.1 checked
  simp only [Fields.required_text_iff, asked] at reads
  obtain ⟨actionId, requestId, theRole, decided, commented, sequenced, keyed, created⟩ := reads
  simp at actionId requestId theRole keyed
  have sameDecision : action.decision = decision := by
    obtain ⟨v, found, read⟩ := Fields.required_eq_accepted_iff.1 decided
    simp at found
    rw [← found, Reader.choice_decision] at read
    cases read
    rfl
  have sameSequence : action.sequence = sequence := by
    obtain ⟨v, found, read⟩ := Fields.required_eq_accepted_iff.1 sequenced
    simp at found
    rw [← found] at read
    simp [Reader.boundedInt, Reader.int, Int.not_lt.2 placed] at read
    exact read.symm
  have sameComment : comment = .ofText? action.comment := by
    have read := (Fields.optional_of_get? (v := comment) (by simp)).1 commented
    cases comment with
    | null =>
        rw [← Checked.accepted.inj read]
        rfl
    | text s =>
        rw [← Checked.accepted.inj read]
        rfl
    | _ => cases read
  have timely : action.createdAt.leavesCalendar = false := by
    obtain ⟨v, found, read⟩ := Fields.required_eq_accepted_iff.1 created
    simp at found
    rw [← found] at read
    rw [← Checked.accepted.inj read]
    exact Moment.leavesCalendar_ofClock _
  refine ⟨⟨requestId.symm, theRole, sameDecision, sameSequence, ?_⟩, actionId.symm, sameComment, timely⟩
  rw [← keyed, theRole, ← actionId, sameDecision]
  rfl

/-- The schema takes every action that the store keeps. -/
theorem isKept_of_refused {faults : List Fault} (placed : 1 ≤ sequence)
    (checked : Action.check (asked id role decision sequence comment number clock) = .refused faults) :
    isKept role comment sequence = false := by
  by_contra kept
  obtain ⟨-, ⟨name, rfl, -⟩, given, rfl, -⟩ := isKept_iff.1 (by simpa using kept)
  let action : Action := ⟨idText "ACT" number, id, name, decision, given, sequence,
    Action.keyOf id name decision (idText "ACT" number), Moment.ofClock clock⟩
  have accepted : Action.check action.fields = .accepted action := Action.check_fields placed
  have refused := accepted.symm.trans checked
  cases refused

/-- Whether the store keeps an action that the schema takes hangs on its role, its comment and its place. -/
theorem admissionFault?_iff_isKept (plain : ∀ c ∈ id.toList, c ≠ Text.mark)
    (recorded : Recorded action id role decision sequence) (numbered : action.id = idText "ACT" number)
    (sameComment : comment = .ofText? action.comment) (timely : action.createdAt.leavesCalendar = false) :
    Document.admissionFault? action.document = none ↔ isKept role comment sequence = true := by
  have wholeId : Text.hasHalf action.id = false := by
    rw [numbered]
    exact Text.hasHalf_of_unmarked (idText_plain (.inr rfl) _).2
  have wholeRequestId : Text.hasHalf action.requestId = false := by
    rw [recorded.requestId]
    exact Text.hasHalf_of_unmarked plain
  have key : Text.hasHalf action.key = Text.hasHalf (action.role ++ ":") := by
    rw [recorded.key, numbered, Action.hasHalf_keyOf plain]
  rw [Action.admissionFault?_document_iff timely, isKept_iff, key, recorded.sequence]
  constructor
  · rintro ⟨⟨-, -, -, whole⟩, fits, comment⟩
    exact ⟨fits, ⟨action.role, recorded.role, whole⟩, action.comment, sameComment, comment⟩
  · rintro ⟨fits, ⟨name, named, whole⟩, given, written, comment⟩
    obtain rfl : action.role = name := Value.text.inj (recorded.role.symm.trans named)
    have same : given = action.comment := Value.ofText?_injective (written.symm.trans sameComment)
    exact ⟨⟨wholeId, wholeRequestId, Text.hasHalf_of_colon whole, whole⟩, fits, same ▸ comment⟩

end Asked

/-- A number is taken first, and then what was asked for is checked and put at the end. -/
theorem exec_record (id : String) (role : Value) (decision : Decision) (sequence : Int) (comment : Value)
    (s : ServiceState) :
    exec (record (.text id) role decision (.int sequence) comment) s =
      exec (accept (Action.check (asked id role decision sequence comment (s.taken "ACT" + 1) s.clock)) >>= append)
        (s.afterNew "ACT") := by
  rw [record, exec_bind, exec_now]
  dsimp only
  rw [exec_bind_ok (exec_newId "ACT" s)]
  rfl

/-- A new action of a role is put at the end of the trail as it was asked for, or not recorded. Its number
is taken in both cases. -/
theorem exec_record_cases (shown : ledger.ShownBy s.store) {id : String}
    (plain : ∀ c ∈ id.toList, c ≠ Text.mark) (role : Value)
    (decision : Decision) {sequence : Int} (placed : 1 ≤ sequence) (comment : Value) :
    (∃ failure, Misses ledger s.down id role decision comment sequence (s.taken "ACT" + 1) failure ∧
      exec (record (.text id) role decision (.int sequence) comment) s =
        (.error failure, s.afterNew "ACT")) ∨
    (∃ action table journal,
      exec (record (.text id) role decision (.int sequence) comment) s =
        (.ok action,
          { s.afterNew "ACT" with store := s.store.setTable .actions table, journal }) ∧
      (ledger.append action.kept).ShownBy (s.store.setTable .actions table) ∧
      Recorded action id role decision sequence ∧ action.id = idText "ACT" (s.taken "ACT" + 1) ∧
      s.down = false ∧ isKept role comment sequence = true) := by
  rw [exec_record]
  cases checked : Action.check (asked id role decision sequence comment (s.taken "ACT" + 1) s.clock) with
  | refused faults => exact Or.inl ⟨_, .malformed faults (isKept_of_refused placed checked), rfl⟩
  | accepted action =>
      rw [exec_bind_ok (exec_accept_accepted action _)]
      obtain ⟨recorded, numbered, sameComment, timely⟩ := recorded_of_check placed checked
      have storable := admissionFault?_iff_isKept plain recorded numbered sameComment timely
      rcases Bool.eq_false_or_eq_true s.down with down | up
      · exact Or.inl ⟨.storeDown, .unreached down, exec_append_down (s := s.afterNew "ACT") down action⟩
      rcases exec_append_cases (s := s.afterNew "ACT") action up shown (recorded.sequence ▸ placed) with
        ⟨fault, unfit, refused⟩ | ⟨⟨other, member, shared⟩, refused⟩ | ⟨admitted, table, journal, ran, shows⟩
      · refine Or.inl ⟨.store fault, .unstorable fault ?_, refused⟩
        rw [← Bool.not_eq_true, ← storable, unfit]
        simp
      · rw [recorded.requestId, ← recorded.role] at refused
        refine Or.inl ⟨_, .taken other member ?_, refused⟩
        rw [recorded.key, numbered, recorded.decision] at shared
        rw [recorded.role]
        exact shared
      · exact Or.inr ⟨action, table, journal, ran, shows, recorded, numbered, up, storable.1 admitted⟩

end Trail

end Countersign
