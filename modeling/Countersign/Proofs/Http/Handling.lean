/-
Module: Countersign.Proofs.Http.Handling
Purpose: How each part of the service handles a request, and where it stumbles.
Main exports: Http.Endpoint.Stumbles, Http.Endpoint.Misfit, Http.Endpoint.handle_ends, Http.KeptByCommands,
  Http.Endpoint.handle_keeps, Http.Endpoint.exec_handle_misfit
-/
import Countersign.Http.Handler
import Countersign.Proofs.Commands.Refusing
import Countersign.Proofs.Http.Forms
import Countersign.Proofs.Submission.Refusing

namespace Countersign

open Service ServiceState

/-!
A request that fits its form is handled by a command. The command tells what is the matter, unless it stumbles: over a
company that is none, which no form looks at, or over something that the store does not keep.
-/

variable {s : ServiceState}

/-! ### The connection -/

namespace Connection

/-- Setting how far the service is connected. -/
theorem setLink_asks (link : Link → Link) :
    Asks (modify fun s => { s with link := link s.link } : Service Unit) :=
  .modify fun _ => ⟨rfl, rfl, fun _ => Nat.le_refl _, .of_unwritten rfl rfl⟩

theorem ensureClient_asks (settings : Settings) : Asks (ensureClient settings) := by
  refine .bind .get fun _ => .ite (.bind .note fun _ => .bind (setLink_asks fun link => { link with client := true })
    fun _ => .bind (.attempt .reach) fun outcome => ?_) .pure
  cases outcome with
  | ok store => exact .note
  | error failure => exact .bind .note fun _ => .throw

theorem ensure_asks (settings : Settings) : Asks (ensure settings) :=
  .bind .get fun _ => .ite (.bind (ensureClient_asks settings) fun _ =>
    .bind (setLink_asks fun link => { link with database := true }) fun _ => .note) .pure

theorem health_asks (settings : Settings) : Asks (health settings) := by
  refine .bind (.attempt (.bind (ensure_asks settings) fun _ => .bind .reach fun _ => .pure)) fun outcome => ?_
  cases outcome with
  | ok _ => exact .pure
  | error failure => exact .bind .note fun _ => .pure

theorem health_ends (settings : Settings) {failed : Failure → Prop} :
    Ends (fun _ => True) failed (health settings) s := by
  refine .ok_bind (exec_attempt _ s) ?_
  split
  · exact .pure trivial
  · exact Ends.note.bind fun _ _ _ _ => .pure trivial

/-- A store that can be reached is connected to. -/
theorem ensureClient_ends (up : s.down = false) (settings : Settings) {failed : Failure → Prop} :
    Ends (fun _ => True) failed (ensureClient settings) s := by
  refine .ok_bind (exec_get s) (.ite (fun _ => ?_) fun _ => .pure trivial)
  have reached (s' : ServiceState) (same : s'.down = s.down) : exec reach s' = (.ok s'.store, s') :=
    exec_reach_up (same.trans up)
  refine .bind .note fun _ s' noted _ => .ok_bind (exec_modify _ _) (.ok_bind (exec_attempt _ _) ?_)
  cases noted
  rw [reached]
  · exact .note
  · rfl

theorem ensure_ends (up : s.down = false) (settings : Settings) {failed : Failure → Prop} :
    Ends (fun _ => True) failed (ensure settings) s :=
  .ok_bind (exec_get s) (.ite (fun _ => (ensureClient_ends up settings).bind fun _ _ _ _ =>
    .ok_bind (exec_modify _ _) .note) fun _ => .pure trivial)

end Connection

namespace Http

/-- A request over which a command stumbles: its form is fine with it, but it names a company that is none, or the store
does not keep what it asks for. -/
inductive Endpoint.Stumbles (store : Store) : Endpoint → Option Value → Prop where
  | rule {body : Option Value} {sent : RuleCatalog.NewRule} {id : String} {time : Moment}
      (fits : form newRule body = .accepted sent) (unkept : RuleCatalog.Unkept (sent.draft id time)) :
      Stumbles store .createRule body
  | change {body : Option Value} {updates : Fields} {document : Document} {current : Rule}
      (fits : form ruleUpdates body = .accepted updates) (stored : document ∈ store.rules)
      (reads : Rule.check document = .accepted current) (unkept : RuleCatalog.ChangeUnkept current updates) :
      Stumbles store (.updateRule current.id) body
  | company {body : Option Value} {sent : Routing.NewTicket} (fits : form newTicket body = .accepted sent)
      (none : Routing.NoCompany sent) : Stumbles store .createTicket body
  | ticket {body : Option Value} {sent : Routing.NewTicket} (fits : form newTicket body = .accepted sent)
      (unkept : Routing.Unkept sent) : Stumbles store .createTicket body
  | request {body : Option Value} {ask : Approval.Ask} (fits : form newRequest body = .accepted ask.proposal)
      (unkept : ¬ ask.Storable) : Stumbles store .createRequest body
  | demands {body : Option Value} {id : String} (unkept : Routing.DemandsUnkept store id) :
      Stumbles store (.submitTicket id) body
  | action {body : Option Value} {id : String} {sent : NewAction} (fits : form newAction body = .accepted sent)
      (unkept : Approval.UnkeptAction store id (.text sent.role) (.ofText? sent.comment)) :
      Stumbles store (.submitAction id) body

/-- A request that does not fit the form of a part of the service, with what is wrong. -/
inductive Endpoint.Misfit (call : Call) (body : Option Value) : Endpoint → List Fault → Prop where
  | rule {faults : List Fault} (refused : form newRule body = .refused faults) : Misfit call body .createRule faults
  | change {faults : List Fault} (refused : form ruleUpdates body = .refused faults) (id : String) :
      Misfit call body (.updateRule id) faults
  | ticket {faults : List Fault} (refused : form newTicket body = .refused faults) :
      Misfit call body .createTicket faults
  | request {faults : List Fault} (refused : form newRequest body = .refused faults) :
      Misfit call body .createRequest faults
  | action {faults : List Fault} (refused : form newAction body = .refused faults) (id : String) :
      Misfit call body (.submitAction id) faults
  | rules {faults : List Fault} (refused : enabledOnly call = .refused faults) : Misfit call body .listRules faults
  | requests {faults : List Fault} (refused : listing call = .refused faults) : Misfit call body .listRequests faults

/-- A response that does not speak of an unexpected error. -/
def Response.IsFine (response : Response) : Prop := response.status ≠ 500

/-- A response that was handled is fine. -/
def Handled.IsFine (handled : Handled) : Prop := ∀ response, handled = .ok response → response.IsFine

theorem isFine_ok (v : Value) : (ok v).IsFine := (by decide : 200 ≠ 500)

theorem isFine_created (v : Value) : (created v).IsFine := (by decide : 201 ≠ 500)

variable {settings : Settings} {call : Call} {body : Option Value}

section Handling

variable {α : Type} {crashes : Failure → Prop}

/-- What a part of a command gave is written into a fine response. -/
theorem writes {part : Service α} (ends : Ends (fun _ => True) crashes part s) {write : α → Response}
    (fine : ∀ a, (write a).IsFine) : Ends Response.IsFine crashes (part >>= fun a => pure (write a)) s :=
  ends.bind fun a _ _ _ => .pure (fine a)

/-- A handler comes in where the store is connected to, and that leaves it as it is. -/
theorem handlePlain_ends (inOrder : s.InOrder) {handler : Service Response}
    (handles : ∀ s', s'.InOrder → s'.store = s.store → Ends Response.IsFine (fun f => f.Told ∨ crashes f) handler s') :
    Ends Handled.IsFine (fun f => f.Told ∨ crashes f) (handlePlain settings handler) s := by
  refine (Connection.ensure_ends inOrder.up settings).bind fun _ s' ran _ => ?_
  have asked := Connection.ensure_asks settings s
  rw [ran] at asked
  refine (handles s' (inOrder.asked asked) asked.store).bind fun response _ _ fine => .pure ?_
  rintro other ⟨⟩
  exact fine

theorem handleWith_ends (inOrder : s.InOrder) {checked : Checked α} {handler : α → Service Response}
    (handles : ∀ a s', checked = .accepted a → s'.InOrder → s'.store = s.store →
      Ends Response.IsFine (fun f => f.Told ∨ crashes f) (handler a) s') :
    Ends Handled.IsFine (fun f => f.Told ∨ crashes f) (handleWith settings checked handler) s := by
  cases checked with
  | refused faults => exact .pure fun response same => nomatch same
  | accepted a => exact handlePlain_ends inOrder fun s' order same => handles a s' rfl order same

end Handling

theorem healthValue_ends (settings : Settings) {failed : Failure → Prop} :
    Ends (fun _ => True) failed (healthValue settings) s :=
  (Connection.health_ends settings).bind fun _ _ _ _ => .pure trivial

/-- The requests to list are told by texts. -/
theorem of_listing {wanted : Listing} (accepted : listing call = .accepted wanted) :
    ∃ status role rule ticketId, wanted.filter = ⟨status, .text role, .text rule, .text ticketId⟩ := by
  simp only [listing, Checked.seq_eq_accepted_iff, Checked.map_eq_accepted_iff] at accepted
  obtain ⟨_, _, ⟨_, _, ⟨_, _, ⟨_, _, ⟨_, _, ⟨status, -, rfl⟩, -, rfl⟩, -, rfl⟩, -, rfl⟩, -, rfl⟩, -, rfl⟩ := accepted
  exact ⟨_, _, _, _, rfl⟩

/-- Every part of the service answers in a fine way, or tells what is the matter, or stumbles. -/
theorem Endpoint.handle_ends (inOrder : s.InOrder) (settings : Settings) (call : Call) (body : Option Value)
    (endpoint : Endpoint) :
    Ends Handled.IsFine (fun f => f.Told ∨ endpoint.Stumbles s.store body) (endpoint.handle settings call body) s := by
  -- An endpoint stumbles only over what it writes and the store does not keep: what was sent, or what rules demand.
  cases endpoint with
  | listRules =>
      exact handleWith_ends inOrder fun enabledOnly s' _ _ _ =>
        writes (.of_tells (RuleStore.list_tells enabledOnly)) fun _ => isFine_ok _
  | createRule =>
      refine handleWith_ends inOrder fun sent s' fits order _ => writes ?_ fun _ => isFine_created _
      obtain ⟨rules, wellKept⟩ := order.rules
      refine (RuleCatalog.create_ends order.up wellKept (typed_of_newRule fits)).mono (fun _ done => done) fun _ => ?_
      exact Or.imp_right fun ⟨id, time, unkept⟩ => .rule fits unkept
  | ruleFields => exact handlePlain_ends inOrder fun s' _ _ => .pure (isFine_ok _)
  | seedRules =>
      refine handlePlain_ends inOrder fun s' order _ => writes ?_ fun _ => isFine_ok _
      obtain ⟨rules, wellKept⟩ := order.rules
      exact .of_tells (RuleCatalog.seed_tells order.up wellKept)
  | getRule id =>
      exact handlePlain_ends inOrder fun s' _ _ => writes (.of_tells (RuleStore.get_tells id)) fun _ => isFine_ok _
  | updateRule id =>
      refine handleWith_ends inOrder fun updates s' fits order same => ?_
      obtain ⟨rules, wellKept⟩ := order.rules
      have ends := RuleCatalog.update_ends order.up wellKept id (typed_of_ruleUpdates fits)
      refine (ends.mono (fun _ done => done) fun failure => Or.imp_right ?_).bind fun rule _ _ _ =>
        Ends.note.bind fun _ _ _ _ => .pure (isFine_ok _)
      rintro ⟨current, member, rfl, unkept⟩
      obtain ⟨_, _, before, document, behind, -, stored, -, stands, -⟩ := split_of_mem wellKept.stands member
      exact .change fits (same ▸ stored ▸ (List.mem_append_right _ List.mem_cons_self)) stands.reads unkept
  | toggleRule id =>
      refine handlePlain_ends inOrder fun s' order _ => writes ?_ fun _ => isFine_ok _
      obtain ⟨rules, wellKept⟩ := order.rules
      exact .of_tells (RuleCatalog.toggle_tells order.up wellKept id)
  | deleteRule id =>
      exact handlePlain_ends inOrder fun s' _ _ => writes (.of_tells (RuleStore.remove_tells id)) fun _ => isFine_ok _
  | createTicket =>
      refine handleWith_ends inOrder fun sent s' fits order _ => writes ?_ fun _ => isFine_created _
      obtain ⟨⟨id, named⟩, fields, described⟩ := of_newTicket fits
      obtain ⟨ledger, shown, -⟩ := order.ledger
      refine (Routing.register_ends shown named described).mono (fun _ done => done) fun _ => Or.imp_right ?_
      rintro (none | unkept)
      · exact .company fits none
      · exact .ticket fits unkept
  | getTicket id =>
      refine handlePlain_ends inOrder fun s' order _ => writes ?_ fun _ => isFine_ok _
      obtain ⟨ledger, shown, -⟩ := order.ledger
      exact .of_tells (TicketStore.get_tells order.up shown id)
  | evaluateTicket id =>
      refine handlePlain_ends inOrder fun s' order _ => writes ?_ fun _ => isFine_ok _
      obtain ⟨ledger, shown, -⟩ := order.ledger
      exact .of_tells (Routing.evaluate_tells order.up shown order.cataloged id)
  | submitTicket id =>
      refine handlePlain_ends inOrder fun s' order same => ?_
      obtain ⟨ledger, shown, -⟩ := order.ledger
      refine ((Routing.submit_ends order.up shown order.cataloged id).mono (fun _ done => done) fun _ =>
        Or.imp_right fun unkept => ?_).bind fun outcome _ _ _ => Ends.note.bind fun _ _ _ _ => .pure (isFine_ok _)
      exact .demands (same ▸ unkept)
  | createRequest =>
      refine handleWith_ends inOrder fun sent s' fits order _ => writes ?_ fun _ => isFine_created _
      obtain ⟨ask, rfl⟩ := exists_ask_of_newRequest fits
      obtain ⟨ledger, shown, -⟩ := order.ledger
      exact (Approval.openRequest_ends order.up shown ask).mono (fun _ done => done) fun _ =>
        Or.imp_right fun unkept => .request fits unkept
  | listRequests =>
      refine handleWith_ends inOrder fun wanted s' fits order _ => writes ?_ fun _ => isFine_ok _
      obtain ⟨status, role, rule, ticketId, told⟩ := of_listing fits
      obtain ⟨ledger, shown, -⟩ := order.ledger
      rw [told]
      exact .of_tells (RequestStore.list_tells shown status role rule ticketId _ _)
  | statistics =>
      exact handlePlain_ends inOrder fun s' _ _ => writes (.of_tells Approval.statistics_tells) fun _ => isFine_ok _
  | getRequest id =>
      refine handlePlain_ends inOrder fun s' order _ => writes ?_ fun _ => isFine_ok _
      obtain ⟨ledger, shown, -⟩ := order.ledger
      exact .of_tells (Approval.progress_tells order.up shown id)
  | requestStatus id =>
      refine handlePlain_ends inOrder fun s' order _ => writes ?_ fun _ => isFine_ok _
      obtain ⟨ledger, shown, -⟩ := order.ledger
      exact .of_tells (Approval.progress_tells order.up shown id)
  | requestActions id =>
      refine handlePlain_ends inOrder fun s' order _ => writes ?_ fun _ => isFine_ok _
      obtain ⟨ledger, shown, -⟩ := order.ledger
      exact .of_tells (Approval.history_tells order.up shown id)
  | submitAction id =>
      refine handleWith_ends inOrder fun sent s' fits order same => writes ?_ fun _ => isFine_ok _
      exact (Approval.submit_ends order id _ _ _ _).mono (fun _ done => done) fun _ =>
        Or.imp_right fun unkept => .action fits (same ▸ unkept)
  | health =>
      refine (healthValue_ends settings).bind fun v _ _ _ => .pure ?_
      rintro response ⟨⟩
      exact isFine_ok _
  | about =>
      refine .pure ?_
      rintro response ⟨⟩
      exact isFine_ok _

/-! ### What is left behind -/

/-- What holds after the commands that requests lead to, where it held before. -/
structure KeptByCommands (kept : ServiceState → Prop) : Prop where
  asks : ∀ {α : Type} {part : Service α}, Asks part → Keeps kept part
  create : ∀ sent, Keeps kept (RuleCatalog.create sent)
  update : ∀ id updates, Keeps kept (RuleCatalog.update id updates)
  toggle : ∀ id, Keeps kept (RuleCatalog.toggle id)
  remove : ∀ id, Keeps kept (RuleCatalog.remove id)
  seed : Keeps kept RuleCatalog.seed
  register : ∀ sent, Keeps kept (Routing.register sent)
  submit : ∀ id, Keeps kept (Routing.submit id)
  openRequest : ∀ proposal, Keeps kept (Approval.openRequest proposal)
  act : ∀ (id : String) role decision comment terms, Keeps kept (Approval.submit (.text id) role decision comment terms)

/-- Commands leave a store in order. -/
theorem keptByCommands_inOrder : KeptByCommands InOrder where
  asks := InOrder.asks
  create := RuleCatalog.create_inOrder
  update := RuleCatalog.update_inOrder
  toggle := RuleCatalog.toggle_inOrder
  remove := RuleCatalog.remove_inOrder
  seed := RuleCatalog.seed_inOrder
  register := Routing.register_inOrder
  submit := Routing.submit_inOrder
  openRequest := Approval.openRequest_inOrder
  act := Approval.submit_inOrder

section Keeping

variable {kept : ServiceState → Prop}

/-- What is kept however the rules are written, and by submissions, is kept by all commands. -/
theorem KeptByCommands.of_writing (rules : KeptByWriting kept .rules) (submitting : KeptBySubmitting kept) :
    KeptByCommands kept where
  asks := rules.asks
  create := RuleCatalog.create_keeps rules.authors
  update := RuleCatalog.update_keeps rules.authors
  toggle := RuleCatalog.toggle_keeps rules.authors
  remove := RuleStore.remove_keeps rules.authors
  seed := RuleCatalog.seed_keeps rules.authors
  register := Routing.register_keeps submitting.routing
  submit := Routing.submit_keeps submitting.routing
  openRequest := Approval.openRequest_keeps submitting.routing
  act id := Approval.submit_keeps submitting (.text id)

theorem handlePlain_keeps (commands : KeptByCommands kept) {handler : Service Response} (keeps : Keeps kept handler) :
    Keeps kept (handlePlain settings handler) :=
  .bind (commands.asks (Connection.ensure_asks settings)) fun _ => .bind keeps fun _ => .pure

theorem handleWith_keeps (commands : KeptByCommands kept) {α : Type} {checked : Checked α}
    {handler : α → Service Response} (keeps : ∀ a, Keeps kept (handler a)) :
    Keeps kept (handleWith settings checked handler) := by
  cases checked with
  | refused faults => exact .pure
  | accepted a => exact handlePlain_keeps commands (keeps a)

theorem healthValue_asks (settings : Settings) : Asks (healthValue settings) :=
  (Connection.health_asks settings).bind fun _ => .pure

/-- What commands keep is kept by every part of the service. -/
theorem Endpoint.handle_keeps (commands : KeptByCommands kept) (settings : Settings) (call : Call)
    (body : Option Value) (endpoint : Endpoint) : Keeps kept (endpoint.handle settings call body) := by
  have asks {part : Service Response} (asked : Asks part) : Keeps kept (handlePlain settings part) :=
    handlePlain_keeps commands (commands.asks asked)
  cases endpoint with
  | listRules =>
      exact handleWith_keeps commands fun enabledOnly =>
        commands.asks ((RuleStore.list_asks enabledOnly).bind fun _ => .pure)
  | createRule => exact handleWith_keeps commands fun sent => .bind (commands.create sent) fun _ => .pure
  | ruleFields => exact asks .pure
  | seedRules => exact handlePlain_keeps commands (.bind commands.seed fun _ => .pure)
  | getRule id => exact asks ((RuleStore.get_asks _).bind fun _ => .pure)
  | updateRule id =>
      exact handleWith_keeps commands fun updates => .bind (commands.update _ _) fun _ =>
        commands.asks (Asks.note.bind fun _ => .pure)
  | toggleRule id => exact handlePlain_keeps commands (.bind (commands.toggle _) fun _ => .pure)
  | deleteRule id => exact handlePlain_keeps commands (.bind (commands.remove _) fun _ => .pure)
  | createTicket => exact handleWith_keeps commands fun sent => .bind (commands.register sent) fun _ => .pure
  | getTicket id => exact asks ((TicketStore.get_asks _).bind fun _ => .pure)
  | evaluateTicket id => exact asks ((Routing.evaluate_asks _).bind fun _ => .pure)
  | submitTicket id =>
      exact handlePlain_keeps commands (.bind (commands.submit _) fun _ =>
        commands.asks (Asks.note.bind fun _ => .pure))
  | createRequest => exact handleWith_keeps commands fun sent => .bind (commands.openRequest sent) fun _ => .pure
  | listRequests =>
      exact handleWith_keeps commands fun wanted =>
        commands.asks ((RequestStore.list_asks _ _ _).bind fun _ => .pure)
  | statistics => exact asks (Approval.statistics_asks.bind fun _ => .pure)
  | getRequest id => exact asks ((Approval.progress_asks _).bind fun _ => .pure)
  | requestStatus id => exact asks ((Approval.progress_asks _).bind fun _ => .pure)
  | requestActions id => exact asks ((Approval.history_asks _).bind fun _ => .pure)
  | submitAction id => exact handleWith_keeps commands fun sent => .bind (commands.act id _ _ _ _) fun _ => .pure
  | health => exact commands.asks ((healthValue_asks settings).bind fun _ => .pure)
  | about => exact .pure

end Keeping

/-! ### What does not fit -/

/-- A request that does not fit its form is not handled at all. -/
theorem Endpoint.exec_handle_misfit {endpoint : Endpoint} {faults : List Fault}
    (misfit : endpoint.Misfit call body faults) (settings : Settings) (s : ServiceState) :
    exec (endpoint.handle settings call body) s = (.ok (.error faults), s) := by
  have refuses {α : Type} {checked : Checked α} (refused : checked = .refused faults) (handler : α → Service Response) :
      exec (handleWith settings checked handler) s = (.ok (.error faults), s) := by
    rw [refused]
    rfl
  cases misfit with
  | rule refused | change refused id | ticket refused | request refused | action refused id | rules refused
  | requests refused => exact refuses refused _

end Http

end Countersign
