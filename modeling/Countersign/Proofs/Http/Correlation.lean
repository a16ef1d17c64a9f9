/-
Module: Countersign.Proofs.Http.Correlation
Purpose: Under which ids a request is answered, and its entries are written.
Main exports: Logged.keptByCommands, ServiceState.newCorrelation, Http.Call.correlation, Http.WrittenUnder,
  Http.respond_names, Http.respond_writes, Http.respond_correlates
-/
import Countersign.Proofs.Http.Serving

namespace Countersign

open Service

/-!
A response names the id that was chosen when its request came in, and the journal is written under the id that was
chosen when its body had been read. These are one where the request brings an id. Where it brings none they are two
new ids, so nobody finds the entries of a request by what its response names.
-/

/-! ### Commands and the journal -/

namespace Logged

variable {before : ServiceState}

theorem asks {α : Type} {part : Service α} (asks : Asks part) : Keeps (Logged before) part :=
  fun s logged => logged.trans (asks s).logged

/-- The store is written without a word to the journal. -/
theorem writing (collection : Collection) : KeptByWriting (Logged before) collection :=
  ⟨asks, fun _ logged => logged.trans (.of_unwritten rfl rfl)⟩

theorem keptBySubmitting : KeptBySubmitting (Logged before) :=
  .of_writing (writing .requests) (writing .actions) (writing .tickets)
    (.bind (asks .get) fun _ => .ite (fun _ logged => logged.trans (.of_unwritten rfl rfl)) .throw)

/-- Whatever commands write to the journal they write under the id that was set. -/
theorem keptByCommands : Http.KeptByCommands (Logged before) := .of_writing (writing .rules) keptBySubmitting

end Logged

/-! ### New ids -/

/-- One of the ids that are given to requests next, the first or one further on. -/
def ServiceState.newCorrelation (s : ServiceState) (count : Nat) : String :=
  "COR-" ++ compactTime (Moment.ofClock s.clock) ++ "-" ++ Text.hexDigits 8 (s.taken "COR" + count)

namespace ServiceState

variable {s : ServiceState}

/-- No two of them are the same. -/
theorem newCorrelation_injective (s : ServiceState) : Function.Injective s.newCorrelation := by
  intro first second same
  have chars := congrArg String.toList same
  simp only [newCorrelation, String.toList_append, List.append_cancel_left_eq] at chars
  have numbers := Text.hexDigits_injective 8 (String.toList_injective chars)
  omega

/-- Who takes one leaves the others. -/
theorem newCorrelation_afterNew (s : ServiceState) (count : Nat) :
    (s.afterNew "COR").newCorrelation count = s.newCorrelation (count + 1) := by
  rw [newCorrelation, taken_afterNew, if_pos rfl, Nat.add_assoc, Nat.add_comm 1 count]
  rfl

end ServiceState

theorem Service.exec_newCorrelationId (s : ServiceState) :
    exec newCorrelationId s = (.ok (s.newCorrelation 1), s.afterNew "COR") := by
  have took : exec (takeNumber "COR") s = (.ok (s.taken "COR" + 1), s.afterNew "COR") := rfl
  rw [newCorrelationId, exec_bind_ok (exec_now s), exec_bind_ok took, exec_pure, ServiceState.newCorrelation]

namespace Http

variable {settings : Settings} {call : Call} {endpoint : Endpoint} {s : ServiceState} {failed : Failure → Prop}

/-- The id that a request brings, or one of those that are given next. -/
def Call.correlation (call : Call) (s : ServiceState) (count : Nat) : String :=
  (call.filledHeader? correlationHeader).getD (s.newCorrelation count)

/-- Who brings no id is given another one each time. -/
theorem Call.correlation_eq_iff (call : Call) (s : ServiceState) :
    call.correlation s 1 = call.correlation s 2 ↔ (call.filledHeader? correlationHeader).isSome = true := by
  unfold correlation
  cases call.filledHeader? correlationHeader with
  | some id => simp
  | none => simpa using (s.newCorrelation_injective).ne (by decide : 1 ≠ 2)

theorem exec_correlationOf (call : Call) (s : ServiceState) :
    ∃ s', exec (correlationOf call) s = (.ok (call.correlation s 1), s') ∧ s'.journal = s.journal ∧
      ∀ count, call.correlation s' count = call.correlation s (count + 1) := by
  unfold correlationOf Call.correlation
  cases call.filledHeader? correlationHeader with
  | some id => exact ⟨s, rfl, rfl, fun _ => by simp only [Option.getD_some]⟩
  | none => exact ⟨s.afterNew "COR", exec_newCorrelationId s, rfl, s.newCorrelation_afterNew⟩

/-! ### Entries under an id -/

/-- Entries were written, and all but those that tell of errors under an id. -/
def WrittenUnder (id : String) (s s' : ServiceState) : Prop :=
  ∃ entries, s'.journal = entries ++ s.journal ∧
    ∀ entry ∈ entries, entry.source ≠ .text Source.errorApi.name → entry.correlation = .text id

namespace WrittenUnder

variable {id : String} {before after : ServiceState}

theorem of_unwritten (journal : after.journal = before.journal) : WrittenUnder id before after :=
  ⟨[], journal, by simp⟩

theorem trans (first : WrittenUnder id before s) (second : WrittenUnder id s after) : WrittenUnder id before after := by
  obtain ⟨early, wrote, under⟩ := first
  obtain ⟨late, wroteMore, underToo⟩ := second
  refine ⟨late ++ early, by rw [wroteMore, wrote, List.append_assoc], fun entry member => ?_⟩
  exact (List.mem_append.1 member).elim (underToo entry) (under entry)

/-- What was written while an id was set was written under it. -/
theorem of_logged (logged : Logged before after) (set : before.correlation = some id) :
    WrittenUnder id before after := by
  obtain ⟨entries, wrote, under⟩ := logged.journal
  exact ⟨entries, wrote, fun entry member _ => by rw [under entry member, set]; rfl⟩

/-- An error may be told of under any id. -/
theorem note_keeps {level : Level} {message : String} {details : Fields} {exception : Bool} :
    Keeps (WrittenUnder id before) (note level .errorApi message details exception) := by
  intro s written
  refine written.trans ⟨[_], rfl, fun entry member other => ?_⟩
  rw [List.mem_singleton.1 member] at other
  exact absurd rfl other

theorem setCorrelation_keeps (chosen : Option String) : Keeps (WrittenUnder id before) (setCorrelation chosen) :=
  fun _ written => written.trans (of_unwritten rfl)

theorem answerUnreadable_keeps (call : Call) (fault : BodyFault) :
    Keeps (WrittenUnder id before) (answerUnreadable call fault) := by
  cases fault with
  | unreadable => exact .pure
  | json fault => exact .bind note_keeps fun _ => .pure

theorem answerFailure?_keeps (failure : Failure) : Keeps (WrittenUnder id before) (answerFailure? failure) := by
  unfold answerFailure?
  split
  · exact .pure
  · exact .ite (.bind (.bind note_keeps fun _ => .pure) fun _ => .pure) .pure

theorem answerUnexpected_keeps (correlation : String) :
    Keeps (WrittenUnder id before) (answerUnexpected correlation) :=
  .bind (setCorrelation_keeps _) fun _ => .bind note_keeps fun _ => .pure

end WrittenUnder

/-! ### What a request writes -/

/-- The part of the interface that a request leads to writes under the id that is chosen next. -/
theorem dispatch_writes (interface : endpoint.isInterface = true) (settings : Settings) (call : Call)
    (s : ServiceState) :
    WrittenUnder (call.correlation s 1) s (exec (dispatch settings call endpoint) s).2 := by
  rcases bodyOf_cases call endpoint with ⟨fault, unread⟩ | ⟨body, read⟩
  · rw [dispatch_of_unread unread]
    exact WrittenUnder.answerUnreadable_keeps call fault s (.of_unwritten rfl)
  · obtain ⟨chosen, ran, journal, -⟩ := exec_correlationOf call s
    rw [dispatch_of_read read, if_pos interface, exec_bind_ok ran, setCorrelation, exec_bind_ok (exec_modify _ _)]
    refine .trans (s := { chosen with correlation := some (call.correlation s 1) }) (.of_unwritten journal)
      (.of_logged ?_ rfl)
    exact answerRead_keeps Logged.keptByCommands settings call endpoint body _ (.refl _)

theorem answerEndpoint?_writes (interface : endpoint.isInterface = true) (settings : Settings) (call : Call)
    (s : ServiceState) :
    WrittenUnder (call.correlation s 1) s (exec (answerEndpoint? settings call endpoint) s).2 := by
  rw [answerEndpoint?_eq, exec_map, reply?, exec_bind_ok (exec_attempt _ s)]
  have wrote := dispatch_writes interface settings call s
  cases (exec (dispatch settings call endpoint) s).1 with
  | ok response => exact wrote
  | error failure => exact WrittenUnder.answerFailure?_keeps failure _ wrote

theorem answered_writes (found : locate call.method call.path = .found endpoint)
    (interface : endpoint.isInterface = true) (settings : Settings) (s : ServiceState) (correlation : String) :
    WrittenUnder (call.correlation s 1) s (exec (answered settings call correlation) s).2 := by
  have answers := answerEndpoint?_writes interface settings call s
  rw [answered, methodAskedFor?_of_found found, answer?, found]
  refine Keeps.after_bind answers fun reply => ?_
  cases reply with
  | some response => exact .pure
  | none => exact WrittenUnder.answerUnexpected_keeps correlation

/-- Whatever part of the interface a request leads to writes under the second of its ids. -/
theorem respond_writes (found : locate call.method call.path = .found endpoint)
    (interface : endpoint.isInterface = true) (settings : Settings) (s : ServiceState) :
    WrittenUnder (call.correlation s 2) s (exec (respond settings call) s).2 := by
  obtain ⟨chosen, ran, journal, next⟩ := exec_correlationOf call s
  have wrote := answered_writes found interface settings
    { chosen with correlation := some (call.correlation s 1) } (call.correlation s 1)
  rw [respond_eq, exec_bind_ok (exec_get s), exec_bind_ok ran, setCorrelation, exec_bind_ok (exec_modify _ _),
    ← next 1]
  exact Keeps.after_bind (.trans (.of_unwritten journal) wrote) fun _ =>
    .bind (WrittenUnder.setCorrelation_keeps _) fun _ => .pure

/-! ### What a response names -/

/-- Every request gets a response, which names the first of its ids. -/
theorem respond_names (settings : Settings) (call : Call) (s : ServiceState) :
    Ends (fun response => ("x-correlation-id", call.correlation s 1) ∈ response.headers) failed
      (respond settings call) s := by
  have replies (endpoint : Endpoint) (s' : ServiceState) :
      Ends (Replies (fun _ => True) True) (fun _ => False) (reply? settings call endpoint) s' := by
    refine .ok_bind (exec_attempt _ s') ?_
    split
    · exact answerFailure?_answers _ trivial
    · exact .pure (Or.inr trivial)
  have answers (s' : ServiceState) : Ends (Replies (fun _ => True) True) failed (answer? settings call) s' := by
    unfold answer?
    split
    · exact .pure (Or.inr trivial)
    · exact .pure (Or.inr trivial)
    · exact .pure (Or.inr trivial)
    · next endpoint found =>
        exact (answerEndpoint?_ends found (replies endpoint s')).mono (fun _ _ => Or.inr trivial) fun _ => id
  obtain ⟨chosen, ran, -, -⟩ := exec_correlationOf call s
  rw [respond_eq]
  refine .ok_bind (exec_get s) (.ok_bind ran (.ok_bind (exec_modify _ _) ?_))
  refine (answered_ends (fun _ _ => trivial) (answers _) _).bind fun response _ _ _ => .ok_bind (exec_modify _ _) ?_
  exact .pure (List.mem_append_right _ (List.mem_singleton_self _))

/-- A request for the interface gets a response that names one id, and what its commands write to the journal they write
under another one, unless the request brings the id that is used for both. -/
theorem respond_correlates (found : locate call.method call.path = .found endpoint)
    (interface : endpoint.isInterface = true) (settings : Settings) (s : ServiceState) :
    ∃ response s' entries answered written,
      exec (respond settings call) s = (.ok response, s') ∧
      ("x-correlation-id", answered) ∈ response.headers ∧
      s'.journal = entries ++ s.journal ∧
      (∀ entry ∈ entries, entry.source ≠ .text Source.errorApi.name → entry.correlation = .text written) ∧
      answered = call.correlation s 1 ∧ written = call.correlation s 2 ∧
      (answered = written ↔ (call.filledHeader? correlationHeader).isSome = true) := by
  have names : Ends (fun response => ("x-correlation-id", call.correlation s 1) ∈ response.headers) (fun _ => False)
      (respond settings call) s := respond_names settings call s
  have writes := respond_writes found interface settings s
  cases ran : exec (respond settings call) s with
  | mk outcome s' =>
      cases outcome with
      | error failure => exact absurd (names.failure ran) id
      | ok response =>
          rw [ran] at writes
          obtain ⟨entries, journal, under⟩ := writes
          exact ⟨response, s', entries, _, _, rfl, names.answer ran, journal, under, rfl, rfl,
            call.correlation_eq_iff s⟩

/-- Someone asks for the default rules and brings no id. -/
def seeding : Call where
  method := "POST"
  origin := Call.ownOrigin
  path := "/api/v1/approval-rules/seed"

/-- A service whose store has a rule already. -/
def ruled : ServiceState where
  store := { rules := [[("rule_id", .text "RULE-000000000001")]] }
  clock := 0

/-- The response names the first id, and the journal tells under the second that there are rules. -/
theorem respond_correlates_of_seeding :
    ∃ response s', exec (respond {} seeding) ruled = (.ok response, s') ∧
      ("x-correlation-id", "COR-19700101000000-00000001") ∈ response.headers ∧
      ∃ entry ∈ s'.journal, entry.source.text? = some (Source.name .ruleCatalog) ∧
        entry.correlation = .text "COR-19700101000000-00000002" := by
  have first : seeding.correlation ruled 1 = "COR-19700101000000-00000001" := by decide +kernel
  have second : seeding.correlation ruled 2 = "COR-19700101000000-00000002" := by decide +kernel
  have told : ((exec (respond {} seeding) ruled).2.journal.any fun entry =>
      entry.source.text? == some (Source.name .ruleCatalog)) = true := by decide +kernel
  obtain ⟨response, s', entries, answered, written, ran, names, journal, under, rfl, rfl, -⟩ :=
    respond_correlates (show locate seeding.method seeding.path = .found .seedRules by decide) rfl {} ruled
  rw [ran] at told
  obtain ⟨entry, member, source⟩ := List.any_eq_true.1 told
  have own : entry.source.text? = some (Source.name .ruleCatalog) := beq_iff_eq.1 source
  have ofCommand : entry.source ≠ .text Source.errorApi.name := by
    intro same
    rw [same] at own
    exact absurd own (by decide)
  have wrote : s'.journal = entries := journal.trans (List.append_nil entries)
  refine ⟨response, s', ran, first ▸ names, entry, member, own, ?_⟩
  rw [← second]
  exact under entry (wrote ▸ member) ofCommand

end Http

end Countersign
