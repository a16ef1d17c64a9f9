/-
Module: Countersign.Proofs.Decision.Turns
Purpose: Submissions on one request take turns unless one of them can only fail.
Main exports: Phase.Lost, Phase.Lost.advanced, Phase.Part, Ledger.Doomed, Ledger.Orderly, Ledger.TakesTurns,
  Ledger.Orderly.advanced
-/
import Countersign.Proofs.Decision.Fencing
import Countersign.Proofs.Decision.Finality
import Countersign.Proofs.Submission.Engagement
import Countersign.Proofs.World.Requests

namespace Countersign

open Service

/-!
A submission that loses the lease while it is inside its request can only fail. So as long as none has failed or is
bound to, whoever is inside holds the lease, and nobody else is: submissions commit one after the other, each on what
those before it left.
-/

namespace Phase

variable {call : Submission} {id token : String} {down : Bool} {ledger after : Ledger} {phase next : Phase}
  {holding later : Holding} {committed more : List Action} {waiting other : Option Action}
  {outcome : Except Failure ActionResult}

/-! ### Outcomes -/

theorem outcome?_onFailure (phase : Phase) (failure : Failure) :
    (phase.onFailure failure).outcome? = some (.error failure) := by
  cases phase <;> rfl

theorem outcome?_cutOff (phase : Phase) : phase.cutOff.outcome? = some (.error .connectionLost) := by
  cases phase <;> rfl

theorem outcome?_afterRelease (outcome : Except Failure ActionResult) :
    (afterRelease outcome).outcome? = some outcome := by
  cases outcome <;> rfl

theorem isInside_of_outcome? (known : phase.outcome? = some outcome) : phase.isInside = false := by
  cases phase <;> first | rfl | cases known

/-- What a submission reports it reports to the end, unless it fails. -/
theorem Moves.outcome?_eq (moves : Moves call id down ledger phase after next)
    (known : phase.outcome? = some outcome) :
    next.outcome? = some outcome ∨ ∃ failure, next.outcome? = some (.error failure) := by
  cases moves with
  | failed failure fails => exact Or.inr ⟨failure, outcome?_onFailure _ _⟩
  | released up holding member same held => exact Or.inl ((outcome?_afterRelease _).trans known)
  | lost up other => exact Or.inl ((outcome?_afterRelease _).trans known)
  | announced changed up => exact Or.inl known
  | quiet unchanged => exact Or.inl known
  | ended => exact Or.inl known
  | _ => cases known

theorem Engaged.isInside {request : Request} (engaged : phase.Engaged call request committed waiting) :
    phase.isInside = true := by
  cases engaged <;> rfl

theorem Engaged.outcome?_eq {request : Request} (engaged : phase.Engaged call request committed waiting) :
    phase.outcome? = none := by
  cases engaged <;> rfl

/-! ### Submissions that can only fail -/

/-- A submission that failed, or that is inside its request without the lease. -/
def Lost (ledger : Ledger) (id token : String) (phase : Phase) : Prop :=
  (∃ failure, phase.outcome? = some (.error failure)) ∨ (phase.isInside = true ∧ ¬ ledger.Held id token)

/-- A submission that can only fail cannot do better, whatever others do. -/
theorem Lost.stable (lost : phase.Lost ledger id token) (spares : Ledger.Spares token ledger after) :
    phase.Lost after id token :=
  lost.imp_right fun inside => ⟨inside.1, fun held => inside.2 (held.of_spares spares)⟩

/-- Nor does it do better by itself. -/
theorem Lost.advanced (lost : phase.Lost ledger id call.token) (knows : phase.Knows ledger id call.token)
    (moves : Moves call id down ledger phase after next) : next.Lost after id call.token := by
  obtain ⟨failure, known⟩ | ⟨inside, without⟩ := lost
  · exact Or.inl ((moves.outcome?_eq known).elim (fun same => ⟨failure, same⟩) fun failed => failed)
  · cases moves with
    | failed failure fails => exact Or.inl ⟨failure, outcome?_onFailure _ _⟩
    | restored up holding member same held => exact absurd ⟨holding, member, same.trans knows.1.about, held⟩ without
    | committed up holding member same held => exact absurd ⟨holding, member, same, held⟩ without
    | informed => exact Or.inr ⟨rfl, without⟩
    | agreed inLine => exact Or.inr ⟨rfl, without⟩
    | lagging pending drifted holding member same clock => exact Or.inr ⟨rfl, without⟩
    | spread up => exact Or.inr ⟨rfl, without⟩
    | recorded action fine recorded kept => exact Or.inr ⟨rfl, without⟩
    | looked holding member same clock => exact Or.inr ⟨rfl, without⟩
    | _ => cases inside

/-! ### Submissions that may still succeed -/

/-- Where a submission stands on a request with committed actions and one that may wait, if it is not bound to fail:
it does not have the lease yet, it has the lease, or it has committed its action. -/
inductive Part (holding : Holding) (committed : List Action) (waiting : Option Action) (call : Submission) :
    Phase → Prop where
  | before {phase : Phase} (outside : phase.isInside = false) (unreported : phase.outcome? = none) :
      Part holding committed waiting call phase
  | engaged {phase : Phase} (held : holding.holder? = some call.token)
      (engaged : phase.Engaged call holding.request committed waiting) : Part holding committed waiting call phase
  | reported {phase : Phase} {result : ActionResult} (report : phase.outcome? = some (.ok result))
      (role : call.role = .text result.action.role) (decision : result.action.decision = call.decision)
      (version : result.request.version = result.action.sequence + 1) : Part holding committed waiting call phase

/-- Whoever is inside holds the lease. -/
theorem Part.held (part : phase.Part holding committed waiting call) (inside : phase.isInside = true) :
    holding.holder? = some call.token := by
  cases part with
  | before outside unreported => rw [outside] at inside; cases inside
  | engaged held engaged => exact held
  | reported report role decision version => rw [isInside_of_outcome? report] at inside; cases inside

/-- What was committed is reported to the end. -/
theorem Part.reports_on (part : phase.Part holding committed waiting call) {result : ActionResult}
    (report : phase.outcome? = some (.ok result)) (same : next.outcome? = some (.ok result)) :
    next.Part holding committed waiting call := by
  cases part with
  | before outside unreported => rw [unreported] at report; cases report
  | engaged held engaged => rw [engaged.outcome?_eq] at report; cases report
  | reported known role decision version =>
      obtain rfl := Except.ok.inj (Option.some.inj (known.symm.trans report))
      exact .reported same role decision version

/-- Where a submission stands outside does not depend on the request. -/
theorem Part.outside (part : phase.Part holding committed waiting call) (outside : phase.isInside = false)
    (later : Holding) (more : List Action) (other : Option Action) : phase.Part later more other call := by
  cases part with
  | before outside unreported => exact .before outside unreported
  | engaged held engaged => rw [engaged.isInside] at outside; cases outside
  | reported report role decision version => exact .reported report role decision version

end Phase

/-- An entry of a list is the one in some place, or stands beside it. -/
theorem mem_middle_iff {α : Type} {front back : List α} {a b : α} :
    b ∈ front ++ a :: back ↔ b = a ∨ b ∈ front ++ back := by
  simp only [List.mem_append, List.mem_cons]
  exact or_left_comm

/-- What is told of all entries of a list may be told of what they give. -/
theorem map_eq_filterMap {α β γ : Type} {f : α → β} {g : α → Option γ} {h : γ → β} {entries : List α}
    (every : ∀ a ∈ entries, ∃ c, g a = some c ∧ f a = h c) : entries.map f = (entries.filterMap g).map h := by
  induction entries with
  | nil => rfl
  | cons a rest ih =>
      obtain ⟨c, given, same⟩ := every a (List.mem_cons_self ..)
      rw [List.filterMap_cons_some given, List.map_cons, List.map_cons, same,
        ih fun b within => every b (List.mem_cons_of_mem _ within)]

/-- What a submission reports, or is about to report, when it succeeded. -/
def Phase.reported? (phase : Phase) : Option ActionResult :=
  match phase.outcome? with
  | some (.ok result) => some result
  | _ => none

namespace Call

/-- What a submission reports when it succeeded. -/
def reported? (call : Call) : Option ActionResult := call.phase.reported?

variable {call : Call}

theorem reported?_congr {next : Phase} (same : next.outcome? = call.phase.outcome?) :
    Call.reported? { call with phase := next } = call.reported? := by
  rw [reported?, reported?, Phase.reported?, Phase.reported?, ← same]

theorem reported?_of_unreported (unreported : call.phase.outcome? = none) : call.reported? = none := by
  rw [reported?, Phase.reported?, unreported]

/-- A submission that came to its end with a result has succeeded. -/
theorem exists_done_of_reported? (complete : call.isDone = true) (told : call.reported?.isSome = true) :
    ∃ result, call.phase = .done (.ok result) := by
  obtain ⟨submission, phase⟩ := call
  cases phase with
  | done outcome =>
      cases outcome with
      | ok result => exact ⟨result, rfl⟩
      | error failure => cases told
  | _ => cases complete

end Call

namespace Ledger

variable {ledger after : Ledger} {holding later : Holding} {committed more : List Action}
  {waiting other : Option Action} {calls front back : List Call} {call : Call} {next : Phase} {down : Bool}

/-- One of the submissions on the request of an id can only fail. -/
def Doomed (ledger : Ledger) (id : String) (calls : List Call) : Prop :=
  ∃ call ∈ calls, call.phase.Lost ledger id call.submission.token

/-- A request on which submissions take turns: it is in step with its trail, which has the actions that were reported,
and an action waits for its commit only while somebody is inside. Who reports a change found the request pending and
left it decided. -/
structure Orderly (ledger : Ledger) (holding : Holding) (committed : List Action) (waiting : Option Action)
    (calls : List Call) : Prop where
  inStep : ledger.InStep holding committed waiting
  parts : ∀ call ∈ calls, call.phase.Part holding committed waiting call.submission
  waits : waiting = none ∨ ∃ call ∈ calls, call.phase.isInside = true
  reports : committed.Perm ((calls.filterMap Call.reported?).map fun result => result.action.kept)
  changed : (calls.filterMap Call.reported?).countP ActionResult.statusChanged =
    if holding.request.status.isTerminal then 1 else 0

/-- One of the submissions on a request can only fail, or they take turns. -/
def TakesTurns (ledger : Ledger) (request : Request) (calls : List Call) : Prop :=
  ledger.Doomed request.id calls ∨
    ∃ holding committed waiting, request.SameOrigin holding.request ∧ ledger.Orderly holding committed waiting calls

/-- What is known of a request is known of what it came from. -/
theorem TakesTurns.of_origin {request origin : Request} (turns : ledger.TakesTurns request calls)
    (same : origin.SameOrigin request) : ledger.TakesTurns origin calls := by
  refine turns.imp (fun doomed => same.id ▸ doomed) ?_
  rintro ⟨holding, committed, waiting, further, orderly⟩
  exact ⟨holding, committed, waiting, same.trans further, orderly⟩

theorem doomed_of_failed {failure : Failure} (failed : next.outcome? = some (.error failure)) (id : String) :
    ledger.Doomed id (front ++ { call with phase := next } :: back) :=
  ⟨_, mem_middle_iff.2 (Or.inl rfl), Or.inl ⟨failure, failed⟩⟩

namespace Orderly

/-- A request stays orderly while nothing concerns it. -/
theorem keeps (orderly : ledger.Orderly holding committed waiting calls)
    (keeps : Keeps holding.request.id ledger after) : after.Orderly holding committed waiting calls :=
  { orderly with inStep := orderly.inStep.keeps keeps }

/-- A new submission is not inside yet. -/
theorem submitted (orderly : ledger.Orderly holding committed waiting calls) (submission : Submission) :
    ledger.Orderly holding committed waiting (calls ++ [⟨submission, .claiming 0⟩]) where
  inStep := orderly.inStep
  parts call member := by
    rcases List.mem_append.1 member with old | new
    · exact orderly.parts call old
    · obtain rfl := List.mem_singleton.1 new
      exact .before rfl rfl
  waits := orderly.waits.imp_right fun ⟨call, member, inside⟩ => ⟨call, List.mem_append_left _ member, inside⟩
  reports := by
    rw [List.filterMap_append, show [Call.mk submission (.claiming 0)].filterMap Call.reported? = [] from rfl,
      List.append_nil]
    exact orderly.reports
  changed := by
    rw [List.filterMap_append, show [Call.mk submission (.claiming 0)].filterMap Call.reported? = [] from rfl,
      List.append_nil]
    exact orderly.changed

/-- One submission goes on and reports what it reported before. -/
theorem goesOn (orderly : ledger.Orderly holding committed waiting (front ++ call :: back))
    (inStep : after.InStep later committed other) (same : later.request.status = holding.request.status)
    (others : ∀ another ∈ front ++ back, another.phase.Part later committed other another.submission)
    (part : next.Part later committed other call.submission)
    (waits : other = none ∨
      ∃ another ∈ front ++ { call with phase := next } :: back, another.phase.isInside = true)
    (silent : Call.reported? { call with phase := next } = call.reported?) :
    after.Orderly later committed other (front ++ { call with phase := next } :: back) := by
  have results : (front ++ { call with phase := next } :: back).filterMap Call.reported? =
      (front ++ call :: back).filterMap Call.reported? := by
    simp only [List.filterMap_append, List.filterMap_cons, silent]
  refine ⟨inStep, fun another member => ?_, waits, ?_, ?_⟩
  · rcases mem_middle_iff.1 member with rfl | beside
    · exact part
    · exact others another beside
  · rw [results]
    exact orderly.reports
  · rw [results, same]
    exact orderly.changed

/-- While a submission holds the lease nobody else is inside. -/
theorem outside (orderly : ledger.Orderly holding committed waiting (front ++ call :: back))
    (nodup : ((front ++ call :: back).map (·.submission.token)).Nodup)
    (held : holding.holder? = some call.submission.token) :
    ∀ another ∈ front ++ back, another.phase.isInside = false := by
  intro another within
  rw [← Bool.not_eq_true]
  intro inside
  have alsoHeld := (orderly.parts another (mem_middle_iff.2 (Or.inr within))).held inside
  exact ne_of_nodup nodup another within (Option.some.inj (alsoHeld.symm.trans held))

/-- Whoever stands beside a submission that goes on. -/
theorem besides (orderly : ledger.Orderly holding committed waiting (front ++ call :: back)) :
    ∀ another ∈ front ++ back, another.phase.Part holding committed waiting another.submission :=
  fun another within => orderly.parts another (mem_middle_iff.2 (Or.inr within))

/-- Where nobody beside a submission is inside, and the submission is not inside either, no action waits. -/
theorem none_waits (orderly : ledger.Orderly holding committed waiting (front ++ call :: back))
    (alone : ∀ another ∈ front ++ back, another.phase.isInside = false) (outside : call.phase.isInside = false) :
    waiting = none := by
  refine orderly.waits.resolve_right ?_
  rintro ⟨another, member, inside⟩
  rcases mem_middle_iff.1 member with rfl | beside
  · rw [outside] at inside
    cases inside
  · rw [alone another beside] at inside
    cases inside

/-- The others stand where they stood when none of them is inside. -/
theorem besides_outside (orderly : ledger.Orderly holding committed waiting (front ++ call :: back))
    (alone : ∀ another ∈ front ++ back, another.phase.isInside = false) (later : Holding) (more : List Action)
    (other : Option Action) :
    ∀ another ∈ front ++ back, another.phase.Part later more other another.submission :=
  fun another within => (orderly.besides another within).outside (alone another within) later more other


/-- A submission outside that goes on while nothing concerns the request. -/
theorem passes (orderly : ledger.Orderly holding committed waiting (front ++ call :: back))
    (keeps : Keeps holding.request.id ledger after) (outside : call.phase.isInside = false)
    (part : next.Part holding committed waiting call.submission)
    (silent : Call.reported? { call with phase := next } = call.reported?) :
    after.TakesTurns holding.request (front ++ { call with phase := next } :: back) := by
  refine Or.inr ⟨holding, committed, waiting, .refl _, ?_⟩
  refine orderly.goesOn (orderly.inStep.keeps keeps) rfl orderly.besides part (orderly.waits.imp_right ?_) silent
  rintro ⟨another, member, inside⟩
  rcases mem_middle_iff.1 member with rfl | beside
  · rw [outside] at inside
    cases inside
  · exact ⟨another, mem_middle_iff.2 (Or.inr beside), inside⟩

/-- A submission that does not have the lease yet. It takes the lease only when it is free, and whoever had it before
can then only fail. -/
theorem claims (orderly : ledger.Orderly holding committed waiting (front ++ call :: back)) (sound : ledger.Sound)
    (nodup : ((front ++ call :: back).map (·.submission.token)).Nodup) (outside : call.phase.isInside = false)
    (unreported : call.phase.outcome? = none)
    (moves : call.phase.Moves call.submission holding.request.id down ledger after next) :
    after.TakesTurns holding.request (front ++ { call with phase := next } :: back) := by
  have waits (outsideToo : next.isInside = false) (silent : next.outcome? = none) :
      ledger.TakesTurns holding.request (front ++ { call with phase := next } :: back) :=
    orderly.passes (.refl _ _) outside (.before outsideToo silent)
      (Call.reported?_congr (silent.trans unreported.symm))
  obtain ⟨submission, phase⟩ := call
  cases moves with
  | failed failure fails => exact Or.inl (doomed_of_failed (Phase.outcome?_onFailure _ _) _)
  | busy taken => exact waits rfl rfl
  | probed => exact waits rfl rfl
  | waited => exact waits rfl rfl
  | leased there member same time free =>
      obtain rfl := sound.eq_of_id member orderly.inStep.member same
      -- Who is still inside has lost the lease to this submission, and can only fail from here on.
      by_cases overtaken : ∃ another ∈ front ++ back, another.phase.isInside = true
      · obtain ⟨another, within, inside⟩ := overtaken
        refine Or.inl ⟨another, mem_middle_iff.2 (Or.inr within), Or.inr ⟨inside, ?_⟩⟩
        rintro ⟨later, found, about, held⟩
        rw [eq_of_mem_onRequest sound member same rfl found about] at held
        exact ne_of_nodup nodup another within (Option.some.inj held).symm
      · have alone : ∀ another ∈ front ++ back, another.phase.isInside = false := fun another within =>
          Bool.eq_false_iff.2 fun inside => overtaken ⟨another, within, inside⟩
        obtain rfl := orderly.none_waits alone rfl
        refine Or.inr ⟨{ there with lease := some ⟨submission.token, time.add submission.terms.length⟩ },
          committed, none, .refl _, ?_⟩
        exact orderly.goesOn (orderly.inStep.leased rfl rfl) rfl (orderly.besides_outside alone _ _ _)
          (.engaged rfl .leased) (Or.inl rfl) rfl
  | informed => cases outside
  | agreed inLine => cases outside
  | lagging pending drifted there member same clock => cases outside
  | restored up there member same held => cases outside
  | spread up => cases outside
  | recorded action fine recorded kept => cases outside
  | looked there member same clock => cases outside
  | committed up there member same held => cases outside
  | _ => cases unreported

/-- A submission that holds the lease. -/
theorem engages (orderly : ledger.Orderly holding committed waiting (front ++ call :: back)) (sound : ledger.Sound)
    (nodup : ((front ++ call :: back).map (·.submission.token)).Nodup)
    (held : holding.holder? = some call.submission.token)
    (engaged : call.phase.Engaged call.submission holding.request committed waiting)
    (moves : call.phase.Moves call.submission holding.request.id down ledger after next) :
    after.TakesTurns holding.request (front ++ { call with phase := next } :: back) := by
  -- Tokens are distinct, so the holder of the lease is alone inside.
  have alone := orderly.outside nodup held
  have silent := Call.reported?_of_unreported engaged.outcome?_eq
  cases engaged.proceeds orderly.inStep sound moves with
  | failed fails => exact Or.inl (doomed_of_failed rfl _)
  | @engaged _ _ other stays inStep =>
      refine Or.inr ⟨holding, committed, other, .refl _, ?_⟩
      refine orderly.goesOn inStep rfl (orderly.besides_outside alone _ _ _) (.engaged held stays)
        (Or.inr ⟨_, mem_middle_iff.2 (Or.inl rfl), stays.isInside⟩)
        (Call.reported?_congr (stays.outcome?_eq.trans engaged.outcome?_eq.symm))
  | @committed _ action status time accepts pending inStep =>
      have told : Call.reported? { call with phase := .releasing (.ok ⟨holding.request.moved status time, action,
          .pending⟩) } = some ⟨holding.request.moved status time, action, .pending⟩ := rfl
      have changes : ActionResult.statusChanged ⟨holding.request.moved status time, action, .pending⟩ =
          status.isTerminal := by
        cases status <;> rfl
      refine Or.inr ⟨_, _, none, .moved _ _ _, inStep, fun another member => ?_, Or.inl rfl, ?_, ?_⟩
      · rcases mem_middle_iff.1 member with rfl | beside
        · refine .reported rfl accepts.recorded.role accepts.recorded.decision ?_
          change holding.request.version + 1 = _
          rw [orderly.inStep.version, accepts.recorded.sequence]
          rfl
        · exact orderly.besides_outside alone _ _ _ another beside
      · have before := orderly.reports
        rw [List.filterMap_append, List.filterMap_cons_none silent, List.map_append] at before
        rw [List.filterMap_append, List.filterMap_cons_some told, List.map_append, List.map_cons]
        exact (List.perm_append_singleton _ _).trans ((before.cons _).trans List.perm_middle.symm)
      · have before := orderly.changed
        rw [pending, List.filterMap_append, List.filterMap_cons_none silent, List.countP_append] at before
        have nobody : (if ApprovalStatus.pending.isTerminal = true then 1 else 0) = 0 := rfl
        rw [List.filterMap_append, List.filterMap_cons_some told, List.countP_append, List.countP_cons, changes,
          ← Nat.add_assoc, before, nobody, Nat.zero_add]
        rfl

/-- A submission that has committed its action. -/
theorem reports_on (orderly : ledger.Orderly holding committed waiting (front ++ call :: back)) (sound : ledger.Sound)
    (nodup : ((front ++ call :: back).map (·.submission.token)).Nodup) {result : ActionResult}
    (report : call.phase.outcome? = some (.ok result))
    (moves : call.phase.Moves call.submission holding.request.id down ledger after next) :
    after.TakesTurns holding.request (front ++ { call with phase := next } :: back) := by
  have outside := Phase.isInside_of_outcome? report
  rcases moves.outcome?_eq report with same | ⟨failure, failed⟩
  · have silent := Call.reported?_congr (same.trans report.symm)
    have part := (orderly.parts call (mem_middle_iff.2 (Or.inl rfl))).reports_on report same
    have passes (keeps : Keeps holding.request.id ledger after) :
        after.TakesTurns holding.request (front ++ { call with phase := next } :: back) :=
      orderly.passes keeps outside part silent
    obtain ⟨submission, phase⟩ := call
    cases moves with
    | failed failure fails => rw [Phase.outcome?_onFailure] at same; cases same
    | released up there member about held =>
        obtain rfl := sound.eq_of_id member orderly.inStep.member about
        have alone := orderly.outside nodup held
        obtain rfl := orderly.none_waits alone outside
        refine Or.inr ⟨{ there with lease := none }, committed, none, .refl _, ?_⟩
        exact orderly.goesOn (orderly.inStep.leased rfl rfl) rfl (orderly.besides_outside alone _ _ _)
          (part.outside (Phase.isInside_of_outcome? same) _ _ _) (Or.inl rfl) silent
    | lost up other => exact passes (.refl _ _)
    | announced changed up => exact passes (.tell _ _ _ _)
    | quiet unchanged => exact passes (.refl _ _)
    | ended => exact passes (.refl _ _)
    | _ => cases report
  · exact Or.inl (doomed_of_failed failed _)

/-- Every step of a submission where submissions take turns. -/
theorem advanced (orderly : ledger.Orderly holding committed waiting (front ++ call :: back)) (sound : ledger.Sound)
    (nodup : ((front ++ call :: back).map (·.submission.token)).Nodup)
    (moves : call.phase.Moves call.submission holding.request.id down ledger after next) :
    after.TakesTurns holding.request (front ++ { call with phase := next } :: back) := by
  cases orderly.parts call (mem_middle_iff.2 (Or.inl rfl)) with
  | before outside unreported => exact orderly.claims sound nodup outside unreported moves
  | engaged held engaged => exact orderly.engages sound nodup held engaged moves
  | reported report role decision version => exact orderly.reports_on sound nodup report moves

/-- Where all submissions have succeeded, no action waits, and every one of them has its action in the trail. -/
theorem settled (orderly : ledger.Orderly holding committed waiting calls)
    (succeed : ∀ call ∈ calls, ∃ result, call.phase = .done (.ok result)) :
    waiting = none ∧
      calls.map (fun call => (call.submission.role, call.submission.decision)) =
        (calls.filterMap Call.reported?).map (fun result => (.text result.action.role, result.action.decision)) ∧
      ∀ result ∈ calls.filterMap Call.reported?, result.request.version = result.action.sequence + 1 := by
  have parts (call : Call) (member : call ∈ calls) : ∃ result, call.reported? = some result ∧
      (call.submission.role, call.submission.decision) = (.text result.action.role, result.action.decision) ∧
      result.request.version = result.action.sequence + 1 := by
    obtain ⟨result, ended⟩ := succeed call member
    have part := orderly.parts call member
    have told : call.reported? = some result := by rw [Call.reported?, ended]; rfl
    rw [ended] at part
    cases part with
    | before outside unreported => cases unreported
    | engaged held engaged => cases engaged
    | reported report role decision version =>
        obtain rfl := Except.ok.inj (Option.some.inj report)
        exact ⟨result, told, by rw [role, decision], version⟩
  refine ⟨orderly.waits.resolve_right ?_, ?_, fun result member => ?_⟩
  · rintro ⟨call, member, inside⟩
    obtain ⟨result, ended⟩ := succeed call member
    rw [ended] at inside
    cases inside
  · exact map_eq_filterMap fun call member => (parts call member).imp fun _ known => ⟨known.1, known.2.1⟩
  · obtain ⟨call, within, told⟩ := List.mem_filterMap.1 member
    obtain ⟨other, known, -, version⟩ := parts call within
    obtain rfl := Option.some.inj (told.symm.trans known)
    exact version

end Orderly

end Ledger

end Countersign
