/-
Module: Countersign.Proofs.World.Basic
Purpose: The service with all submissions that were ever made, and what may happen to it.
Main exports: Session.Step.isCommand, Call, World, World.Event, World.take, World.becomes_of_take,
  World.inTurn, World.Runs
-/
import Countersign.Session.Run
import Countersign.Proofs.Commands.Changes
import Countersign.Proofs.Commands.Numbers

namespace Countersign

open Service

/-!
A world is the service together with every submission that was made so far. Commands happen as a whole, and
submissions go on one phase at a time. In a run in any order every submission may be the next to go on; in a
nested run a submission that is inside another one comes to its end first, and others only happen where the
submission that goes on has come to a point. A submission may be cut off at a point, and the clock, the outage
and whatever else surrounds the store may change between two events.
-/

/-- Whether a step is a command of the service that is no submission, or only reads the store. -/
def Session.Step.isCommand : Session.Step → Bool
  | .createRule _ => true
  | .updateRule _ _ => true
  | .toggleRule _ => true
  | .deleteRule _ => true
  | .getRule _ => true
  | .listRules _ => true
  | .seedRules => true
  | .fieldCatalog => true
  | .findRule _ => true
  | .countRules => true
  | .registerTicket _ => true
  | .getTicket _ => true
  | .evaluateTicket _ => true
  | .submitTicket _ => true
  | .openRequest _ => true
  | .getDetail _ => true
  | .getStatus _ => true
  | .listActions _ => true
  | .statistics => true
  | .listRequests _ _ _ _ => true
  | .readTrail _ => true
  | .dump _ => true
  | _ => false

/-- A submission that was made, and how far it has come. -/
structure Call where
  submission : Submission
  phase : Phase

namespace Call

/-- Whether a submission has come to its end. -/
def isDone (call : Call) : Bool :=
  match call.phase with
  | .done _ => true
  | _ => false

/-- Whether others may go on while a submission is as far as it is. -/
def yields (call : Call) : Bool := call.isDone || call.phase.point?.isSome

theorem yields_of_point {call : Call} (point : call.phase.point?.isSome = true) : call.yields = true := by
  rw [yields, point, Bool.or_true]

end Call

/-- The service, and all submissions in the order in which they were made. -/
structure World where
  state : ServiceState
  calls : List Call := []

namespace World

/-- What may happen to a world. -/
inductive Event where
  /-- A command that is no submission. -/
  | command (step : Session.Step)
  /-- Everything but the store and the ids that were taken becomes as in some state. -/
  | shift (around : ServiceState)
  /-- A new submission. -/
  | submit (requestId : String) (role : Value) (decision : Decision) (comment : Value)
      (terms : LeaseTerms)
  /-- The next step of a submission. -/
  | advance (index : Nat)
  /-- The connection of a submission breaks at a point. -/
  | cut (index : Nat)

namespace Event

/-- The submission that goes on. -/
def mover? : Event → Option Nat
  | advance index => some index
  | cut index => some index
  | _ => none

end Event

/-- A world in which nothing has happened. -/
def start : World := { state := { clock := Session.beginning } }

/-- What becomes of a world, if the event can happen there. -/
def take (environment : Session.Environment) (w : World) : Event → Option World
  | .command step =>
      if step.isCommand then
        some { w with state := (exec (step.value environment) w.state).2 }
      else none
  | .shift around =>
      some { w with state := { around with store := w.state.store, counters := w.state.counters } }
  | .submit requestId role decision comment terms =>
      match exec (newId "LOCK") w.state with
      | (.ok token, s) =>
          let submission : Submission :=
            { requestId := .text requestId, role, decision, comment, token, terms }
          some { state := s, calls := w.calls ++ [⟨submission, .claiming 0⟩] }
      | (.error _, _) => none
  | .advance index =>
      match w.calls[index]? with
      | some call =>
          match exec (call.phase.step call.submission) w.state with
          | (.ok phase, s) => some { state := s, calls := w.calls.set index { call with phase } }
          | (.error _, _) => none
      | none => none
  | .cut index =>
      match w.calls[index]? with
      | some call =>
          if call.phase.point?.isSome then
            some { w with calls := w.calls.set index { call with phase := call.phase.cutOff } }
          else none
      | none => none

/-- What each event makes of a world in which it can happen. -/
inductive Becomes (environment : Session.Environment) (w : World) : Event → World → Prop where
  | command {step : Session.Step} (command : step.isCommand = true) :
      Becomes environment w (.command step) { w with state := (exec (step.value environment) w.state).2 }
  | shift (around : ServiceState) :
      Becomes environment w (.shift around)
        { w with state := { around with store := w.state.store, counters := w.state.counters } }
  | submit {requestId : String} {role : Value} {decision : Decision} {comment : Value} {terms : LeaseTerms} :
      Becomes environment w (.submit requestId role decision comment terms)
        ⟨w.state.afterNew "LOCK", w.calls ++ [⟨⟨.text requestId, role, decision, comment,
          idText "LOCK" (w.state.taken "LOCK" + 1), terms⟩, .claiming 0⟩]⟩
  | advance {index : Nat} {call : Call} {phase : Phase} {s : ServiceState} (here : w.calls[index]? = some call)
      (ran : exec (call.phase.step call.submission) w.state = (.ok phase, s)) :
      Becomes environment w (.advance index) ⟨s, w.calls.set index { call with phase }⟩
  | cut {index : Nat} {call : Call} (here : w.calls[index]? = some call)
      (point : call.phase.point?.isSome = true) :
      Becomes environment w (.cut index)
        { w with calls := w.calls.set index { call with phase := call.phase.cutOff } }

theorem becomes_of_take {environment : Session.Environment} {w w' : World} {event : Event}
    (taken : w.take environment event = some w') : Becomes environment w event w' := by
  cases event with
  | command step =>
      rw [take] at taken
      split at taken
      · next command =>
          obtain rfl := Option.some.inj taken
          exact .command command
      · cases taken
  | shift around =>
      obtain rfl := Option.some.inj taken
      exact .shift around
  | submit requestId role decision comment terms =>
      rw [take, exec_newId] at taken
      obtain rfl := Option.some.inj taken
      exact .submit
  | advance index =>
      rw [take] at taken
      split at taken
      · next call here =>
          split at taken
          · next phase s ran =>
              obtain rfl := Option.some.inj taken
              exact .advance here ran
          · cases taken
      · cases taken
  | cut index =>
      rw [take] at taken
      split at taken
      · next call here =>
          split at taken
          · next point =>
              obtain rfl := Option.some.inj taken
              exact .cut here point
          · cases taken
      · cases taken

/-- Whether every submission has come to a point or to its end, as they all have between two steps of a
session. -/
def atRest (w : World) : Bool := w.calls.all Call.yields

/-- Whether an event happens inside the submissions that are under way: they have all come to a point, or the
latest of them goes on. -/
def inTurn (w : World) (event : Event) : Bool :=
  match event.mover? with
  | none => w.atRest
  | some index =>
      (w.calls.take index).all Call.yields && (w.calls.drop (index + 1)).all Call.isDone

/-- Where no submission goes on, all of them have come to a point or to their end. -/
theorem yields_of_inTurn {w : World} {event : Event} {index : Nat} {call : Call}
    (turn : w.inTurn event = true) (mover : event.mover? = none) (here : w.calls[index]? = some call) :
    call.yields = true := by
  rw [inTurn, mover] at turn
  exact List.all_eq_true.1 turn call (List.mem_of_getElem? here)

/-- Where one submission goes on, all others have come to a point or to their end, and the later ones to
their end. -/
theorem others_of_inTurn {w : World} {event : Event} {index other : Nat} {call : Call}
    (turn : w.inTurn event = true) (mover : event.mover? = some index)
    (there : w.calls[other]? = some call) (different : other ≠ index) :
    call.yields = true ∧ (index < other → call.isDone = true) := by
  rw [inTurn, mover] at turn
  obtain ⟨early, late⟩ := Bool.and_eq_true_iff.1 turn
  rcases Nat.lt_or_gt_of_ne different with before | behind
  · refine ⟨List.all_eq_true.1 early call ?_, fun after => by omega⟩
    exact List.mem_of_getElem? (i := other) (by rw [List.getElem?_take_of_lt before, there])
  · have ended : call.isDone = true := by
      refine List.all_eq_true.1 late call (List.mem_of_getElem? (i := other - (index + 1)) ?_)
      rw [List.getElem?_drop, ← there]
      congr 1
      omega
    exact ⟨by rw [Call.yields, ended]; rfl, fun _ => ended⟩

/-- What events may happen next. -/
abbrev Order := World → Event → Bool

/-- Everything may happen at any time. -/
def anyOrder : Order := fun _ _ => true

/-- What a world becomes when events happen one after the other. -/
inductive Runs (environment : Session.Environment) (order : Order) (w : World) : World → Prop where
  | stay : Runs environment order w w
  | next {middle after : World} (before : Runs environment order w middle) (event : Event)
      (allowed : order middle event = true) (taken : middle.take environment event = some after) :
      Runs environment order w after

/-- What a world becomes when all events of a list happen, if the order allows them. -/
def play (environment : Session.Environment) (order : Order) (w : World) : List Event → Option World
  | [] => some w
  | event :: rest =>
      if order w event then
        (w.take environment event).bind fun after => after.play environment order rest
      else none

namespace Runs

variable {environment : Session.Environment} {order : Order} {first second third : World}

theorem trans (one : Runs environment order first second) (two : Runs environment order second third) :
    Runs environment order first third := by
  induction two with
  | stay => exact one
  | next before event allowed taken ih => exact .next ih event allowed taken

/-- A nested run is a run in any order. -/
theorem anyOrder (runs : Runs environment order first second) :
    Runs environment World.anyOrder first second := by
  induction runs with
  | stay => exact .stay
  | next before event allowed taken ih => exact .next ih event rfl taken

/-- What is played is a run. -/
theorem of_play {events : List Event} (played : first.play environment order events = some second) :
    Runs environment order first second := by
  induction events generalizing first with
  | nil =>
      obtain rfl := Option.some.inj played
      exact .stay
  | cons event rest ih =>
      rw [play] at played
      split at played
      · next allowed =>
          obtain ⟨after, taken, later⟩ := Option.bind_eq_some_iff.1 played
          exact (Runs.next .stay event allowed taken).trans (ih later)
      · cases played

/-- A test that holds of what is played holds of a world that is reached. -/
theorem exists_of_play {events : List Event} {p : World → Bool}
    (played : (first.play environment order events).any p = true) :
    ∃ last, Runs environment order first last ∧ p last = true := by
  obtain ⟨last, ended, holds⟩ := (Option.any_eq_true p _).1 played
  exact ⟨last, of_play ended, holds⟩

end Runs

/-! ### What is seen of a world -/

/-- The state of a world, with a store that can be reached. -/
def reachable (w : World) : ServiceState := { w.state with down := false }

/-- A request that the store of a world keeps. -/
def Stores (w : World) (request : Request) : Prop :=
  ∃ document ∈ w.state.store.requests, Request.check document = .accepted request

/-- Whether the store of a world keeps a request that passes a test. -/
def storesAny (w : World) (test : Request → Bool) : Bool :=
  w.state.store.requests.any fun document =>
    match Request.check document with
    | .accepted request => test request
    | .refused _ => false

theorem exists_of_storesAny {w : World} {test : Request → Bool} (found : w.storesAny test = true) :
    ∃ request, w.Stores request ∧ test request = true := by
  obtain ⟨document, member, passes⟩ := List.any_eq_true.1 found
  split at passes
  · next request reads => exact ⟨request, ⟨document, member, reads⟩, passes⟩
  · cases passes

theorem storesAny_of_stores {w : World} {request : Request} {test : Request → Bool} (stored : w.Stores request)
    (passes : test request = true) : w.storesAny test = true := by
  obtain ⟨document, member, reads⟩ := stored
  exact List.any_eq_true.2 ⟨document, member, by simp [reads, passes]⟩

/-- The actions on a request in the order in which they were recorded. -/
def trail (w : World) (id : String) : List Action :=
  w.state.store.actions.filterMap fun document =>
    match Action.check document with
    | .accepted action => if action.requestId = id then some action else none
    | .refused _ => none

/-- The trail of a request as it is read when the store can be reached. -/
def history (w : World) (id : String) : List Action :=
  match (exec (Trail.listFor (.text id)) w.reachable).1 with
  | .ok actions => actions
  | .error _ => []

end World

/-! ### A ticket with a request -/

namespace Trial

def environment : Session.Environment := ⟨{}, ⟨.ofRatio false 30 1, 2, .ofRatio false 0 1⟩⟩

/-- A ticket is registered, and a request to some roles is opened for it. -/
def opening (roles : List String) : List World.Event :=
  [.command (.registerTicket { id := .text "T", fields := .record [] }),
    .command (.openRequest
      { ticketId := .text "T", approvers := .list (roles.map .text), ruleTriggered := .text "R" })]

/-- The id that the request is given. -/
def requestId : String := "APR-000000000001"

/-- A role acts on the request. -/
def acts (role : String) (decision : Decision) : World.Event :=
  .submit requestId (.text role) decision .null environment.terms

/-- A submission goes on for some steps. -/
def goesOn (index steps : Nat) : List World.Event := List.replicate steps (.advance index)

/-- Two roles approve, one after the other. -/
def bothApprove : List World.Event :=
  opening ["X", "Y"] ++ [acts "X" .approve] ++ goesOn 0 8 ++ [acts "Y" .approve] ++ goesOn 1 8

/-- A role is about to reject and loses the lease when it has read the history. It asks for changes and approves
before that submission goes on. -/
def overtaken : List World.Event :=
  opening ["X"] ++ [acts "X" .reject] ++ goesOn 0 2
    ++ [.shift { clock := Session.beginning + 31 * Session.tick }]
    ++ [acts "X" .requestChanges] ++ goesOn 1 8 ++ [acts "X" .approve] ++ goesOn 2 8 ++ goesOn 0 5

end Trial

/-! ### Commands -/

namespace Session

theorem skipOf_asks (v : Value) : Asks (skipOf v) := by
  unfold skipOf
  split
  · exact .pure
  · exact .pure
  · exact .ite .throw .pure

theorem sizeOf_asks (v : Value) : Asks (sizeOf v) := by
  unfold sizeOf
  split
  · exact .pure
  · exact .pure
  · exact .ite .pure .throw
  · exact .throw

theorem approvalStatusOf_asks (v : Value) : Asks (approvalStatusOf v) := by
  unfold approvalStatusOf
  split
  · exact .pure
  · exact .throw

/-- Whether a command may write to the store. -/
def Step.writes : Session.Step → Bool
  | .createRule _ => true
  | .updateRule _ _ => true
  | .toggleRule _ => true
  | .deleteRule _ => true
  | .seedRules => true
  | .registerTicket _ => true
  | .submitTicket _ => true
  | .openRequest _ => true
  | _ => false

/-- Every other command only asks. -/
theorem Step.asks {step : Session.Step} (command : step.isCommand = true) (still : step.writes = false)
    (environment : Environment) : Asks (step.value environment) := by
  cases step with
  | getRule id => exact .bind (RuleStore.get_asks id) fun _ => .pure
  | listRules enabledOnly => exact .bind (RuleStore.list_asks enabledOnly) fun _ => .pure
  | fieldCatalog => exact .pure
  | findRule name => exact .bind (RuleStore.findByName?_asks name) fun _ => .pure
  | countRules => exact .bind RuleStore.count_asks fun _ => .pure
  | getTicket id => exact .bind (TicketStore.get_asks id) fun _ => .pure
  | evaluateTicket id => exact .bind (Routing.evaluate_asks id) fun _ => .pure
  | getDetail id => exact .bind (Approval.progress_asks id) fun _ => .pure
  | getStatus id => exact .bind (Approval.progress_asks id) fun _ => .pure
  | listActions id => exact .bind (Approval.history_asks id) fun _ => .pure
  | statistics => exact Approval.statistics_asks
  | listRequests status filter skip size =>
      have listed (status : Option ApprovalStatus) : Asks (do
          let requests ← RequestStore.list { filter with status } (← Session.skipOf skip)
            (← Session.sizeOf size)
          return Value.plain (.list (requests.map Request.value))) :=
        .bind (Session.skipOf_asks skip) fun _ => .bind (Session.sizeOf_asks size) fun _ =>
          .bind (RequestStore.list_asks _ _ _) fun _ => .pure
      exact .ite (.bind (.map (Session.approvalStatusOf_asks status)) listed) (.bind .pure listed)
  | readTrail id => exact .bind (Trail.listFor_asks id) fun _ => .pure
  | dump collection => exact .bind .get fun _ => .pure
  | createRule sent => cases still
  | updateRule id updates => cases still
  | toggleRule id => cases still
  | deleteRule id => cases still
  | seedRules => cases still
  | registerTicket sent => cases still
  | submitTicket id => cases still
  | openRequest proposal => cases still
  | _ => cases command

/-- A command does to the ledger what commands do. -/
theorem Step.commands {step : Session.Step} (command : step.isCommand = true)
    (environment : Environment) : Commands (step.value environment) := by
  cases step with
  | createRule sent => exact .of_aside (.bind (RuleCatalog.create_isAside sent) fun _ => .pure)
  | updateRule id updates => exact .of_aside (.bind (RuleCatalog.update_isAside id updates) fun _ => .pure)
  | toggleRule id => exact .of_aside (.bind (RuleCatalog.toggle_isAside id) fun _ => .pure)
  | deleteRule id => exact .of_aside (.bind (RuleCatalog.remove_isAside id) fun _ => .pure)
  | seedRules => exact .of_aside (.bind RuleCatalog.seed_isAside fun _ => .pure)
  | registerTicket sent => exact (Routing.register_commands sent).bind_aside fun _ => .pure
  | submitTicket id => exact (Routing.submit_commands id).bind_aside fun _ => .pure
  | openRequest proposal => exact (Approval.openRequest_commands proposal).bind_aside fun _ => .pure
  | _ => exact .of_aside (asks command rfl environment).isAside

/-- And it keeps what the rules' authors and the routing of tickets keep. -/
theorem Step.keeps {kept : ServiceState → Prop} (authors : KeptByAuthors kept) (routing : KeptByRouting kept)
    {step : Session.Step} (command : step.isCommand = true) (environment : Environment) :
    Keeps kept (step.value environment) := by
  cases step with
  | createRule sent => exact .bind (RuleCatalog.create_keeps authors sent) fun _ => .pure
  | updateRule id updates => exact .bind (RuleCatalog.update_keeps authors id updates) fun _ => .pure
  | toggleRule id => exact .bind (RuleCatalog.toggle_keeps authors id) fun _ => .pure
  | deleteRule id => exact .bind (RuleStore.remove_keeps authors id) fun _ => .pure
  | seedRules => exact .bind (RuleCatalog.seed_keeps authors) fun _ => .pure
  | registerTicket sent => exact .bind (Routing.register_keeps routing sent) fun _ => .pure
  | submitTicket id => exact .bind (Routing.submit_keeps routing id) fun _ => .pure
  | openRequest proposal => exact .bind (Approval.openRequest_keeps routing proposal) fun _ => .pure
  | _ => exact authors.asks (asks command rfl environment)

end Session

end Countersign
