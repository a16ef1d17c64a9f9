/-
Module: Countersign.Proofs.Http.Serving
Purpose: Which requests are answered as unexpected errors.
Main exports: Http.Stumbling, Http.Misread, Http.Unwritable, Http.Served, Http.respond_eq, Http.respond_inOrder,
  Http.Served.inOrder, Http.Served.exists_response
-/
import Countersign.Http.Server
import Countersign.Proofs.Http.Handling

namespace Countersign.Http

open Service ServiceState

/-!
Where the store is in order every request gets its response. The response speaks of an unexpected error only where a
command stumbled over the request, or where the reply to it cannot be written. What one request leaves behind is in
order again, so the same holds after any number of requests to a store that was empty.
-/

variable {settings : Settings} {call : Call} {endpoint : Endpoint} {s : ServiceState} {failed : Failure → Prop}

/-! ### Requests and their replies -/

/-- The body of a request, where the part of the service that it leads to reads it. -/
def bodyOf (call : Call) (endpoint : Endpoint) : Except BodyFault (Option Value) :=
  if endpoint.readsBody then readBody call else .ok none

theorem bodyOf_cases (call : Call) (endpoint : Endpoint) :
    (∃ fault, bodyOf call endpoint = .error fault) ∨ ∃ body, bodyOf call endpoint = .ok body := by
  cases bodyOf call endpoint with
  | error fault => exact Or.inl ⟨fault, rfl⟩
  | ok body => exact Or.inr ⟨body, rfl⟩

/-- The response to a request whose body was read. -/
def answerRead (settings : Settings) (call : Call) (endpoint : Endpoint) (body : Option Value) : Service Response := do
  match ← endpoint.handle settings call body with
  | .ok response => return response
  | .error faults => answerInvalid call faults

theorem dispatch_of_unread {fault : BodyFault} (unread : bodyOf call endpoint = .error fault) :
    dispatch settings call endpoint = answerUnreadable call fault := by
  rw [bodyOf] at unread
  rw [dispatch, unread]

/-- A request for the interface is handled under an id that is chosen once more. -/
theorem dispatch_of_read {body : Option Value} (read : bodyOf call endpoint = .ok body) :
    dispatch settings call endpoint =
      if endpoint.isInterface then do
        setCorrelation (some (← correlationOf call))
        answerRead settings call endpoint body
      else answerRead settings call endpoint body := by
  rw [bodyOf] at read
  rw [dispatch, read]
  rfl

/-- A request over which a command stumbles. -/
def Stumbling (call : Call) (store : Store) : Prop :=
  ∃ endpoint body, locate call.method call.path = .found endpoint ∧ bodyOf call endpoint = .ok body ∧
    endpoint.Stumbles store body

/-- A request that a part of the service does not even handle: its body is no JSON, or it does not fit its form. -/
def Endpoint.Misreads (endpoint : Endpoint) (call : Call) : Prop :=
  (∃ fault, bodyOf call endpoint = .error fault) ∨
    ∃ body faults, bodyOf call endpoint = .ok body ∧ endpoint.Misfit call body faults

/-- A request that does not fit the part of the service that it leads to. -/
def Misread (call : Call) : Prop :=
  ∃ endpoint, locate call.method call.path = .found endpoint ∧ endpoint.Misreads call

/-- The reply to a request for a part of the service, which may not be fit to be written. -/
def reply? (settings : Settings) (call : Call) (endpoint : Endpoint) : Service (Option Response) := do
  match ← attempt (dispatch settings call endpoint) with
  | .error failure => answerFailure? failure
  | .ok response => return some response

/-- A request to which the reply over a store cannot be written. -/
def Unwritable (settings : Settings) (call : Call) (store : Store) : Prop :=
  ∃ endpoint s response, locate call.method call.path = .found endpoint ∧ s.store = store ∧
    (exec (reply? settings call endpoint) s).1 = .ok (some response) ∧ response.isWritable = false

theorem answerEndpoint?_eq (settings : Settings) (call : Call) (endpoint : Endpoint) :
    answerEndpoint? settings call endpoint = (Option.filter Response.isWritable) <$> reply? settings call endpoint := by
  unfold answerEndpoint? reply?
  rw [map_bind]
  refine congrArg (attempt (dispatch settings call endpoint) >>= ·) (funext fun outcome => ?_)
  cases outcome with
  | ok response => exact (pure_bind _ _).trans (map_pure _ _).symm
  | error failure => exact bind_pure_comp _ _

/-- The response to a request that was given an id, which is yet to be named. -/
def answered (settings : Settings) (call : Call) (correlation : String) : Service Response := do
  match methodAskedFor? call with
  | some method => return answerLeave call method
  | none =>
      match ← answer? settings call with
      | some response => return response.withHeaders (originHeaders call)
      | none => answerUnexpected correlation

theorem respond_eq (settings : Settings) (call : Call) :
    respond settings call = do
      let before := (← get).correlation
      let correlation ← correlationOf call
      setCorrelation (some correlation)
      let response ← answered settings call correlation
      setCorrelation before
      return (withoutContent call response).withHeaders [("x-correlation-id", correlation)] := by
  unfold respond answered
  refine bind_congr fun before => bind_congr fun correlation => bind_congr fun _ => ?_
  cases methodAskedFor? call with
  | some method => rfl
  | none =>
      simp only [bind_assoc]
      refine bind_congr fun reply => ?_
      cases reply <;> rfl

/-- A reply whose status is of a kind, unless there is trouble. -/
def Replies (kind : Nat → Prop) (trouble : Prop) (reply : Option Response) : Prop :=
  (∃ response, reply = some response ∧ kind response.status) ∨ trouble

/-! ### What a request leaves behind -/

theorem correlationOf_asks (call : Call) : Asks (correlationOf call) := by
  unfold correlationOf
  split
  · exact .pure
  · exact fun s => ⟨rfl, rfl, fun other => s.taken_le_afterNew "COR" other, .of_unwritten rfl rfl⟩

theorem setCorrelation_inOrder (id : Option String) : Keeps InOrder (setCorrelation id) :=
  fun _ inOrder => inOrder.aside ⟨rfl, rfl, rfl, rfl, fun _ => Nat.le_refl _⟩ inOrder.rules

/-- Giving a request an id leaves the store as it is. -/
theorem correlated_inOrder (inOrder : s.InOrder) {id : String} {s' : ServiceState}
    (ran : exec (correlationOf call) s = (.ok id, s')) :
    (exec (setCorrelation (some id)) s').2.InOrder ∧ (exec (setCorrelation (some id)) s').2.store = s.store := by
  have asked := correlationOf_asks call s
  rw [ran] at asked
  exact ⟨setCorrelation_inOrder _ s' (inOrder.asked asked), asked.store⟩

theorem answerInvalid_asks (call : Call) (faults : List Fault) : Asks (answerInvalid call faults) :=
  Asks.note.bind fun _ => .pure

theorem answerUnreadable_asks (call : Call) (fault : BodyFault) : Asks (answerUnreadable call fault) := by
  cases fault with
  | unreadable => exact .pure
  | json fault => exact answerInvalid_asks call _

theorem answerFailure?_asks (failure : Failure) : Asks (answerFailure? failure) := by
  unfold answerFailure?
  split
  · exact .pure
  · exact .ite (.bind (Asks.note.bind fun _ => .pure) fun _ => .pure) .pure

theorem answerUnexpected_inOrder (correlation : String) : Keeps InOrder (answerUnexpected correlation) :=
  .bind (setCorrelation_inOrder _) fun _ => InOrder.asks (Asks.note.bind fun _ => .pure)

theorem answerRead_keeps {kept : ServiceState → Prop} (commands : KeptByCommands kept) (settings : Settings)
    (call : Call) (endpoint : Endpoint) (body : Option Value) :
    Keeps kept (answerRead settings call endpoint body) := by
  refine .bind (Endpoint.handle_keeps commands settings call body endpoint) fun outcome => ?_
  cases outcome with
  | ok response => exact .pure
  | error faults => exact commands.asks (answerInvalid_asks call faults)

theorem dispatch_inOrder (settings : Settings) (call : Call) (endpoint : Endpoint) :
    Keeps InOrder (dispatch settings call endpoint) := by
  rcases bodyOf_cases call endpoint with ⟨fault, unread⟩ | ⟨body, read⟩
  · rw [dispatch_of_unread unread]
    exact InOrder.asks (answerUnreadable_asks call fault)
  · have handled := answerRead_keeps keptByCommands_inOrder settings call endpoint body
    rw [dispatch_of_read read]
    exact .ite (.bind (InOrder.asks (correlationOf_asks call)) fun _ =>
      .bind (setCorrelation_inOrder _) fun _ => handled) handled

theorem answerEndpoint?_inOrder (settings : Settings) (call : Call) (endpoint : Endpoint) :
    Keeps InOrder (answerEndpoint? settings call endpoint) := by
  rw [answerEndpoint?_eq]
  refine .map (.bind (.attempt (dispatch_inOrder settings call endpoint)) fun outcome => ?_)
  cases outcome with
  | ok response => exact .pure
  | error failure => exact InOrder.asks (answerFailure?_asks failure)

theorem answered_inOrder (settings : Settings) (call : Call) (correlation : String) :
    Keeps InOrder (answered settings call correlation) := by
  have answers : Keeps InOrder (answer? settings call) := by
    unfold answer?
    split
    · exact .pure
    · exact .pure
    · exact .pure
    · exact answerEndpoint?_inOrder settings call _
  unfold answered
  split
  · exact .pure
  · refine .bind answers fun reply => ?_
    cases reply with
    | some response => exact .pure
    | none => exact answerUnexpected_inOrder correlation

/-- A request leaves the store in order. -/
theorem respond_inOrder (settings : Settings) (call : Call) : Keeps InOrder (respond settings call) := by
  rw [respond_eq]
  exact .bind (InOrder.asks .get) fun _ => .bind (InOrder.asks (correlationOf_asks call)) fun correlation =>
    .bind (setCorrelation_inOrder _) fun _ => .bind (answered_inOrder settings call correlation) fun _ =>
      .bind (setCorrelation_inOrder _) fun _ => .pure

/-! ### How a request is answered -/

theorem correlationOf_ends (call : Call) : Ends (fun _ => True) failed (correlationOf call) s := by
  unfold correlationOf
  split
  · exact .pure trivial
  · exact .ok rfl

theorem answerInvalid_ends (call : Call) (faults : List Fault) :
    Ends (fun response => response.status = 400) failed (answerInvalid call faults) s :=
  Ends.note.bind fun _ _ _ _ => .pure rfl

theorem answerUnreadable_ends (call : Call) (fault : BodyFault) :
    Ends (fun response => response.status = 400) failed (answerUnreadable call fault) s := by
  cases fault with
  | unreadable => exact .pure rfl
  | json fault => exact answerInvalid_ends call _

theorem answerStorage_ends (failure : Failure) :
    Ends (fun response => response.status = 503) failed (answerStorage failure) s :=
  Ends.note.bind fun _ _ _ _ => .pure rfl

/-- Who is told what is the matter gets a reply, which does not speak of an unexpected error. -/
theorem answerFailure?_ends {failure : Failure} (told : failure.Told) {trouble : Prop} :
    Ends (Replies (· ≠ 500) trouble) failed (answerFailure? failure) s := by
  unfold answerFailure?
  split
  · next refusal =>
      refine .pure (Or.inl ⟨_, rfl, ?_⟩)
      change refusal.kind.status ≠ 500
      cases refusal.kind <;> decide
  · next unrefused =>
      have speaks : failure.isStorage = true := by
        cases told with
        | refused refusal => exact absurd rfl (unrefused refusal)
        | storage speaks => exact speaks
      rw [if_pos speaks]
      refine (answerStorage_ends failure).bind fun response _ _ status => .pure (Or.inl ⟨response, rfl, ?_⟩)
      rw [status]
      decide

theorem answerFailure?_answers (failure : Failure) {trouble : Prop} (holds : trouble) {kind : Nat → Prop} :
    Ends (Replies kind trouble) failed (answerFailure? failure) s := by
  unfold answerFailure?
  split
  · exact .pure (Or.inr holds)
  · exact .ite (fun _ => (answerStorage_ends failure).bind fun _ _ _ _ => .pure (Or.inr holds)) fun _ =>
      .pure (Or.inr holds)

theorem answerRead_ends (inOrder : s.InOrder) (settings : Settings) {body : Option Value}
    (read : bodyOf call endpoint = .ok body) :
    Ends (fun response => response.status ≠ 500)
      (fun f => f.Told ∨ ∃ body, bodyOf call endpoint = .ok body ∧ endpoint.Stumbles s.store body)
      (answerRead settings call endpoint body) s := by
  refine ((Endpoint.handle_ends inOrder settings call body endpoint).mono (fun _ fine => fine)
    fun _ => Or.imp_right fun stumbles => ⟨body, read, stumbles⟩).bind fun outcome s' _ fine => ?_
  cases outcome with
  | ok response => exact .pure (fine response rfl)
  | error faults => exact (answerInvalid_ends call faults).mono (fun _ => by omega) fun _ => id

/-- A request that can be read is dispatched to the part of the service that it is for. -/
theorem dispatch_ends (inOrder : s.InOrder) (settings : Settings) (call : Call) (endpoint : Endpoint) :
    Ends (fun response => response.status ≠ 500)
      (fun f => f.Told ∨ ∃ body, bodyOf call endpoint = .ok body ∧ endpoint.Stumbles s.store body)
      (dispatch settings call endpoint) s := by
  rcases bodyOf_cases call endpoint with ⟨fault, unread⟩ | ⟨body, read⟩
  · rw [dispatch_of_unread unread]
    exact (answerUnreadable_ends call fault).mono (fun _ => by omega) fun _ => id
  · rw [dispatch_of_read read]
    refine .ite (fun _ => ?_) fun _ => answerRead_ends inOrder settings read
    refine (correlationOf_ends call).bind fun id s' ran _ => .ok_bind (exec_modify _ _) ?_
    obtain ⟨still, same⟩ := correlated_inOrder inOrder ran
    exact same ▸ answerRead_ends still settings read

/-- A request that is not even handled is told so. -/
theorem dispatch_misread (misread : endpoint.Misreads call) (settings : Settings) :
    Ends (fun response => response.status = 400) failed (dispatch settings call endpoint) s := by
  rcases misread with ⟨fault, broken⟩ | ⟨body, faults, read, misfit⟩
  · rw [dispatch_of_unread broken]
    exact answerUnreadable_ends call fault
  · have handled {s' : ServiceState} : Ends (fun response => response.status = 400) failed
        (answerRead settings call endpoint body) s' :=
      .ok_bind (Endpoint.exec_handle_misfit misfit settings s') (answerInvalid_ends call faults)
    rw [dispatch_of_read read]
    exact .ite (fun _ => (correlationOf_ends call).bind fun id s' _ _ => .ok_bind (exec_modify _ _) handled)
      fun _ => handled

theorem reply?_ends (inOrder : s.InOrder) (settings : Settings) (call : Call) (endpoint : Endpoint) :
    Ends (Replies (· ≠ 500) (∃ body, bodyOf call endpoint = .ok body ∧ endpoint.Stumbles s.store body)) failed
      (reply? settings call endpoint) s := by
  have ends := dispatch_ends inOrder settings call endpoint
  refine .ok_bind (exec_attempt _ s) ?_
  cases ran : exec (dispatch settings call endpoint) s with
  | mk outcome s' =>
      cases outcome with
      | ok response => exact .pure (Or.inl ⟨response, rfl, ends.answer ran⟩)
      | error failure =>
          rcases ends.failure ran with told | stumbles
          · exact answerFailure?_ends told
          · exact answerFailure?_answers failure stumbles

theorem reply?_misread (misread : endpoint.Misreads call) (settings : Settings) :
    Ends (Replies (· = 400) False) failed (reply? settings call endpoint) s := by
  have ends : Ends (fun response => response.status = 400) (fun _ => False) (dispatch settings call endpoint) s :=
    dispatch_misread misread settings
  refine .ok_bind (exec_attempt _ s) ?_
  cases ran : exec (dispatch settings call endpoint) s with
  | mk outcome s' =>
      cases outcome with
      | ok response => exact .pure (Or.inl ⟨response, rfl, ends.answer ran⟩)
      | error failure => exact absurd (ends.failure ran) id

/-- A reply is given unless it cannot be written. -/
theorem answerEndpoint?_ends {kind : Nat → Prop} {trouble : Prop}
    (found : locate call.method call.path = .found endpoint)
    (replies : Ends (Replies kind trouble) (fun _ => False) (reply? settings call endpoint) s) :
    Ends (Replies kind (trouble ∨ Unwritable settings call s.store)) failed
      (answerEndpoint? settings call endpoint) s := by
  rw [answerEndpoint?_eq]
  refine .map ?_
  cases ran : exec (reply? settings call endpoint) s with
  | mk outcome s' =>
      cases outcome with
      | error failure => exact absurd (replies.failure ran) id
      | ok reply =>
          refine .of_ok ran ?_
          rcases replies.answer ran with ⟨response, rfl, status⟩ | troubled
          · cases writable : response.isWritable with
            | true => exact Or.inl ⟨response, by simp [writable], status⟩
            | false => exact Or.inr (Or.inr ⟨endpoint, s, response, found, rfl, congrArg Prod.fst ran, writable⟩)
          · exact Or.inr (Or.inl troubled)

/-- A response takes over the status of the answer, if there is one. -/
theorem answered_ends {kind : Nat → Prop} {trouble : Prop}
    (leaves : ∀ method, methodAskedFor? call = some method → kind (answerLeave call method).status)
    (answers : Ends (Replies kind trouble) failed (answer? settings call) s) (correlation : String) :
    Ends (fun response => kind response.status ∨ trouble) failed (answered settings call correlation) s := by
  unfold answered
  split
  · next method asks => exact .pure (Or.inl (leaves method asks))
  · refine answers.bind fun reply _ _ replied => ?_
    cases reply with
    | some response =>
        rcases replied with ⟨_, ⟨⟩, fine⟩ | troubled
        · exact .pure (Or.inl fine)
        · exact .pure (Or.inr troubled)
    | none =>
        rcases replied with ⟨_, ⟨⟩, -⟩ | troubled
        exact .of_ok rfl (Or.inr troubled)

theorem respond_ends (kind : Nat → Prop) (trouble : Prop) (settings : Settings) (call : Call) (inOrder : s.InOrder)
    (leaves : ∀ method, methodAskedFor? call = some method → kind (answerLeave call method).status)
    (answers : ∀ s', s'.InOrder → s'.store = s.store → Ends (Replies kind trouble) failed (answer? settings call) s') :
    Ends (fun response => kind response.status ∨ trouble) failed (respond settings call) s := by
  rw [respond_eq]
  refine .ok_bind (exec_get s) ((correlationOf_ends call).bind fun correlation s' ran _ =>
    .ok_bind (exec_modify _ _) ?_)
  obtain ⟨still, same⟩ := correlated_inOrder inOrder ran
  refine (answered_ends leaves (answers _ still same) correlation).bind fun response _ _ fine =>
    .ok_bind (exec_modify _ _) (.pure ?_)
  unfold withoutContent
  split <;> exact fine

/-- A request that leads to a part of the service does not ask for leave. -/
theorem methodAskedFor?_of_found (found : locate call.method call.path = .found endpoint) :
    methodAskedFor? call = none := by
  have known : ∀ route ∈ routes, route.method ≠ "OPTIONS" := by decide
  unfold locate at found
  dsimp only at found
  split at found
  · next route first =>
      have fits := List.find?_some first
      have member := (List.mem_filter.1 (List.mem_of_find?_eq_some first)).1
      unfold methodAskedFor?
      rw [if_neg]
      rintro ⟨asks, -⟩
      exact known route member ((beq_iff_eq.1 fits).trans asks)
  · split at found
    · cases found
    · split at found <;> cases found

theorem respond_expected (inOrder : s.InOrder) (settings : Settings) (call : Call) :
    Ends (fun response => response.status ≠ 500 ∨ Stumbling call s.store ∨ Unwritable settings call s.store)
      (fun _ => False) (respond settings call) s := by
  refine respond_ends (· ≠ 500) _ settings call inOrder (fun method _ => ?_) fun s' order same => ?_
  · unfold answerLeave
    dsimp only
    split
    · decide
    · exact (by decide : 400 ≠ 500)
  · unfold answer?
    split
    · exact .pure (Or.inl ⟨_, rfl, by decide⟩)
    · exact .pure (Or.inl ⟨_, rfl, (by decide : 405 ≠ 500)⟩)
    · exact .pure (Or.inl ⟨_, rfl, (by decide : 307 ≠ 500)⟩)
    · next endpoint found =>
        rw [← same]
        refine (answerEndpoint?_ends found (reply?_ends order settings call endpoint)).mono
          (fun reply => ?_) fun _ => id
        exact Or.imp_right (Or.imp_left fun ⟨body, read, stumbles⟩ => ⟨endpoint, body, found, read, stumbles⟩)

theorem respond_misread (inOrder : s.InOrder) (settings : Settings) (misread : Misread call) :
    Ends (fun response => response.status = 400 ∨ Unwritable settings call s.store) (fun _ => False)
      (respond settings call) s := by
  obtain ⟨endpoint, found, misreads⟩ := misread
  refine respond_ends (· = 400) _ settings call inOrder (fun method asks => ?_) fun s' order same => ?_
  · cases asks.symm.trans (methodAskedFor?_of_found found)
  · unfold answer?
    rw [found, ← same]
    refine (answerEndpoint?_ends found (reply?_misread misreads settings)).mono (fun reply => ?_) fun _ => id
    exact Or.imp_right fun troubled => troubled.resolve_left id

/-! ### Serving -/

/-- A state that was reached from an empty store by requests, while time passed. -/
inductive Served (settings : Settings) : ServiceState → Prop where
  | start (clock : Int) (link : Link) : Served settings { clock, link }
  | later {s : ServiceState} (served : Served settings s) (clock : Int) : Served settings { s with clock }
  | responded {s : ServiceState} (served : Served settings s) (call : Call) :
      Served settings (exec (respond settings call) s).2

/-- Requests leave a store in order. -/
theorem Served.inOrder (served : Served settings s) : s.InOrder := by
  induction served with
  | start clock link => exact .start clock link
  | later served clock ih => exact ih.asked ⟨rfl, rfl, fun _ => Nat.le_refl _, .of_unwritten rfl rfl⟩
  | responded served call ih => exact respond_inOrder settings call _ ih

/-- After any requests to a store that was empty every request gets a response. The response speaks of an unexpected
error only where a command stumbled over the request or where the reply cannot be written, and one that does not even
fit its form is answered as a bad request. -/
theorem Served.exists_response (served : Served settings s) (call : Call) :
    ∃ response s', exec (respond settings call) s = (.ok response, s') ∧
      (response.status = 500 → Stumbling call s.store ∨ Unwritable settings call s.store) ∧
      (Misread call → response.status = 400 ∨ Unwritable settings call s.store) := by
  have expected := respond_expected served.inOrder settings call
  cases ran : exec (respond settings call) s with
  | mk outcome s' =>
      cases outcome with
      | error failure => exact absurd (expected.failure ran) id
      | ok response =>
          refine ⟨response, s', rfl, fun status => ?_, fun misread => ?_⟩
          · exact (expected.answer ran).resolve_left (absurd status)
          · exact (respond_misread served.inOrder settings misread).answer ran

/-- Someone registers a ticket for a company whose name is a number. -/
def numberedCompany : Call where
  method := "POST"
  origin := Call.ownOrigin
  path := "/api/v1/tickets"
  payload := .json (.record [("fields", .record []), ("company", .record [("name", .int 5)])])

/-- The form takes any record for a company, so the command stumbles over this one. -/
theorem exists_response_of_numberedCompany :
    ∃ response s', exec (respond {} numberedCompany) { clock := 0 } = (.ok response, s') ∧ response.status = 500 ∧
      (Stumbling numberedCompany {} ∨ Unwritable {} numberedCompany {}) := by
  have surprised : (exec (respond {} numberedCompany) { clock := 0 }).1.toOption.map Response.status = some 500 := by
    decide +kernel
  have served : Served {} { clock := 0 } := .start 0 ⟨true, true⟩
  obtain ⟨response, s', ran, unexpected, -⟩ := served.exists_response numberedCompany
  rw [ran] at surprised
  have status : response.status = 500 := Option.some.inj surprised
  exact ⟨response, s', ran, status, unexpected status⟩

end Countersign.Http
