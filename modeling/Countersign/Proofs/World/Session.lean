/-
Module: Countersign.Proofs.World.Session
Purpose: Sessions that keep to the commands of the service are nested runs.
Main exports: Session.Step.isProper, Session.Answer.results, World.Leads, Submission.follow_follows,
  Session.Step.run_serves, Session.turns_leads, Session.run_leads
-/
import Countersign.Proofs.Submission.Endings
import Countersign.Proofs.World.Basic

namespace Countersign

open Service

/-!
A session runs a submission to its end in one call, and what runs at the points of that submission runs inside the
call. Seen as a world, the submission goes on one phase at a time and stays at its point while other submissions
are made and come to their end. So what holds of all nested runs holds of the store after every step of a session,
and the submissions of the world have the outcomes that the session answers.
-/

namespace Session

mutual

/-- Whether a step, with all that runs inside it, keeps to the commands of the service: it may also make the store
unreachable, move the clock and break the connection. -/
def Step.isProper : Step → Bool
  | .submitAction (.text _) _ _ _ none => true
  | .submitAction (.text _) _ _ _ (some during) => areProperAt during
  | .setOutage _ => true
  | .advanceClock _ => true
  | .crash => true
  | step => step.isCommand

def areProper : List Step → Bool
  | [] => true
  | step :: rest => step.isProper && areProper rest

def areProperAt : List (Point × List Step) → Bool
  | [] => true
  | (_, steps) :: rest => areProper steps && areProperAt rest

end

mutual

/-- The actions that were accepted, in the order in which their submissions were made. -/
def Answer.results : Answer → List ActionResult
  | .submission outcome none => outcome.toOption.toList
  | .submission outcome (some during) => outcome.toOption.toList ++ resultsOf during
  | .several answers => resultsOf answers
  | _ => []

def resultsOf : List Answer → List ActionResult
  | [] => []
  | answer :: rest => answer.results ++ resultsOf rest

end

theorem resultsOf_append (answers others : List Answer) :
    resultsOf (answers ++ others) = resultsOf answers ++ resultsOf others := by
  induction answers with
  | nil => rfl
  | cons answer rest ih => rw [List.cons_append, resultsOf, resultsOf, ih, List.append_assoc]

end Session

/-- The action that a submission got accepted. -/
def Call.result? (call : Call) : Option ActionResult :=
  match call.phase with
  | .done outcome => outcome.toOption
  | _ => none

namespace World

variable {environment : Session.Environment} {w w' w'' : World} {results more : List ActionResult}

/-- What becomes of a world while the submissions that came to a point stay there: others are made and come to
their end, with some results. -/
structure Leads (environment : Session.Environment) (w : World) (results : List ActionResult)
    (w' : World) : Prop where
  runs : Runs environment inTurn w w'
  calls : ∃ later : List Call, w'.calls = w.calls ++ later ∧ later.all Call.isDone = true ∧
    later.filterMap Call.result? = results

theorem yields_of_done {calls : List Call} (ended : calls.all Call.isDone = true) :
    calls.all Call.yields = true := by
  rw [List.all_eq_true] at ended ⊢
  intro call member
  rw [Call.yields, ended call member]
  rfl

namespace Leads

theorem refl (w : World) : w.Leads environment [] w := ⟨.stay, [], by simp, rfl, rfl⟩

theorem trans (one : w.Leads environment results w') (two : w'.Leads environment more w'') :
    w.Leads environment (results ++ more) w'' := by
  obtain ⟨first, became, ended, told⟩ := one.calls
  obtain ⟨second, becomes, ends, tells⟩ := two.calls
  refine ⟨one.runs.trans two.runs, first ++ second, ?_, ?_, ?_⟩
  · rw [becomes, became, List.append_assoc]
  · rw [List.all_append, ended, ends]
    rfl
  · rw [List.filterMap_append, told, tells]

theorem atRest (leads : w.Leads environment results w') (rest : w.atRest = true) :
    w'.atRest = true := by
  obtain ⟨later, became, ended, -⟩ := leads.calls
  rw [World.atRest, became, List.all_append]
  exact Bool.and_eq_true_iff.2 ⟨rest, yields_of_done ended⟩

/-- What surrounds the store may change where no submission goes on. -/
theorem shift (rest : w.atRest = true) {s : ServiceState} (store : s.store = w.state.store)
    (counters : s.counters = w.state.counters) : w.Leads environment [] ⟨s, w.calls⟩ := by
  refine ⟨.next .stay (.shift s) rest ?_, [], by simp, rfl, rfl⟩
  rw [take, ← store, ← counters]

theorem command (rest : w.atRest = true) {step : Session.Step} (command : step.isCommand = true) :
    w.Leads environment [] ⟨(exec (step.value environment) w.state).2, w.calls⟩ := by
  refine ⟨.next .stay (.command step) rest ?_, [], by simp, rfl, rfl⟩
  rw [take, if_pos command]

end Leads

/-- A part of a session that answers in every world at rest, and leads on from it with the results that it
answers. -/
def Serves {α : Type} (environment : Session.Environment) (part : Service α)
    (results : α → List ActionResult) : Prop :=
  ∀ w : World, w.atRest = true → ∃ a w', exec part w.state = (.ok a, w'.state) ∧
    w.Leads environment (results a) w'

/-! ### A submission goes on inside a session -/

/-- A submission that has come to a phase, and may be the next to go on. -/
structure OnTurn (w : World) (index : Nat) (call : Submission) (phase : Phase) : Prop where
  here : w.calls[index]? = some ⟨call, phase⟩
  early : (w.calls.take index).all Call.yields = true
  late : (w.calls.drop (index + 1)).all Call.isDone = true

/-- What becomes of a world while one submission goes on to a phase: others are made behind it and come to their
end, with some results. -/
structure Follows (environment : Session.Environment) (w : World) (index : Nat) (call : Submission)
    (results : List ActionResult) (next : Phase) (w' : World) : Prop where
  runs : Runs environment inTurn w w'
  calls : ∃ later : List Call, w'.calls = w.calls.set index ⟨call, next⟩ ++ later ∧
    later.all Call.isDone = true ∧ later.filterMap Call.result? = results

variable {index : Nat} {call : Submission} {phase next last : Phase} {s : ServiceState}

namespace OnTurn

theorem lt_length (turn : w.OnTurn index call phase) : index < w.calls.length :=
  (List.getElem?_eq_some_iff.1 turn.here).1

theorem set_self (turn : w.OnTurn index call phase) : w.calls.set index ⟨call, phase⟩ = w.calls := by
  obtain ⟨inside, same⟩ := List.getElem?_eq_some_iff.1 turn.here
  rw [← same, List.set_getElem_self]

theorem inTurn (turn : w.OnTurn index call phase) {event : Event} (mover : event.mover? = some index) :
    w.inTurn event = true := by
  rw [World.inTurn, mover]
  exact Bool.and_eq_true_iff.2 ⟨turn.early, turn.late⟩

/-- Where the submission has come to a point, all have come to a point or to their end. -/
theorem atRest (turn : w.OnTurn index call phase) (point : phase.point?.isSome = true) :
    w.atRest = true := by
  have parts := List.take_append_drop index w.calls
  rw [List.drop_eq_getElem_cons turn.lt_length, (List.getElem?_eq_some_iff.1 turn.here).2] at parts
  rw [World.atRest, ← parts, List.all_append, List.all_cons, turn.early, yields_of_done turn.late,
    Call.yields_of_point point]
  rfl

theorem advance (turn : w.OnTurn index call phase) (ran : exec (phase.step call) w.state = (.ok next, s)) :
    w.Follows environment index call [] next ⟨s, w.calls.set index ⟨call, next⟩⟩ := by
  refine ⟨.next .stay (.advance index) (turn.inTurn rfl) ?_, [], by simp, rfl, rfl⟩
  simp only [take, turn.here, ran]

theorem cut (turn : w.OnTurn index call phase) (point : phase.point?.isSome = true) :
    w.Follows environment index call [] phase.cutOff
      ⟨w.state, w.calls.set index ⟨call, phase.cutOff⟩⟩ := by
  refine ⟨.next .stay (.cut index) (turn.inTurn rfl) ?_, [], by simp, rfl, rfl⟩
  simp only [take, turn.here, if_pos point]

theorem stay (turn : w.OnTurn index call phase) : w.Follows environment index call [] phase w :=
  ⟨.stay, [], by rw [turn.set_self, List.append_nil], rfl, rfl⟩

theorem leads (turn : w.OnTurn index call phase) (leads : w.Leads environment results w') :
    w.Follows environment index call results phase w' := by
  refine ⟨leads.runs, ?_⟩
  rw [turn.set_self]
  exact leads.calls

end OnTurn

namespace Follows

theorem onTurn (follows : w.Follows environment index call results next w')
    (turn : w.OnTurn index call phase) : w'.OnTurn index call next := by
  obtain ⟨later, became, ended, -⟩ := follows.calls
  have inside : index < (w.calls.set index ⟨call, next⟩).length := by
    rw [List.length_set]
    exact turn.lt_length
  constructor
  · rw [became, List.getElem?_append_left inside, List.getElem?_set_self turn.lt_length]
  · rw [became, List.take_append_of_le_length (Nat.le_of_lt inside), List.take_set_of_le (Nat.le_refl _)]
    exact turn.early
  · rw [became, List.drop_append_of_le_length inside, List.drop_set_of_lt (Nat.lt_succ_self _),
      List.all_append, turn.late, ended]
    rfl

theorem trans (turn : w.OnTurn index call phase)
    (one : w.Follows environment index call results next w')
    (two : w'.Follows environment index call more last w'') :
    w.Follows environment index call (results ++ more) last w'' := by
  obtain ⟨first, became, ended, told⟩ := one.calls
  obtain ⟨second, becomes, ends, tells⟩ := two.calls
  refine ⟨one.runs.trans two.runs, first ++ second, ?_, ?_, ?_⟩
  · rw [becomes, became, List.set_append_left _ _ (by rw [List.length_set]; exact turn.lt_length),
      List.set_set, List.append_assoc]
  · rw [List.all_append, ended, ends]
    rfl
  · rw [List.filterMap_append, told, tells]

end Follows

end World

namespace Submission

open World Session

variable {environment : Session.Environment} {hooks : Hooks Answer} {w : World} {index : Nat}
  {call : Submission} {phase : Phase} {bound : Nat}

/-- What belongs to the point that a submission came to runs there, and may break its connection. -/
theorem visit_follows
    (serve : ∀ hook ∈ hooks, Serves environment hook.2 fun told => resultsOf told.1)
    (turn : w.OnTurn index call phase) (below : phase.Below call bound) :
    ∃ told left next w', exec (visit hooks phase) w.state = (.ok (told, left, next), w'.state) ∧
      (hooks = [] → told = []) ∧ left ⊆ hooks ∧ next.Below call bound ∧
      w.Follows environment index call (resultsOf told) next w' := by
  cases here : phase.point? with
  | none =>
      have nothing : exec (visit hooks phase) w.state = (.ok ([], hooks, phase), w.state) := by
        rw [visit, here]
        rfl
      exact ⟨[], hooks, phase, w, nothing, fun _ => rfl, List.Subset.refl _, below, turn.stay⟩
  | some point =>
      cases found : hooks.lookup point with
      | none =>
          have nothing : exec (visit hooks phase) w.state = (.ok ([], hooks, phase), w.state) := by
            rw [visit, here]
            simp only [found]
            rfl
          exact ⟨[], hooks, phase, w, nothing, fun _ => rfl, List.Subset.refl _, below, turn.stay⟩
      | some hook =>
          obtain ⟨front, back, rfl, -⟩ := List.lookup_eq_some_iff.1 found
          have stays : phase.point?.isSome = true := by rw [here]; rfl
          obtain ⟨⟨told, broken⟩, w', ran, leads⟩ :=
            serve (point, hook) (by simp) w (turn.atRest stays)
          have visited : exec (visit (front ++ (point, hook) :: back) phase) w.state =
              (.ok (told, (front ++ (point, hook) :: back).filter (·.1 != point),
                if broken then phase.cutOff else phase), w'.state) := by
            rw [visit, here]
            simp only [found]
            rw [exec_bind_ok ran]
            rfl
          have follows := turn.leads leads
          -- Whether or not the hook breaks the connection, the point is not visited again: its hook is taken out.
          have asked {told : List Answer} : front ++ (point, hook) :: back = [] → told = [] := by simp
          cases broken with
          | false => exact ⟨_, _, _, w', visited, asked, List.filter_subset_self _, below, follows⟩
          | true =>
              let after : World := ⟨w'.state, w'.calls.set index ⟨call, phase.cutOff⟩⟩
              have cut : w'.Follows environment index call [] phase.cutOff after :=
                (follows.onTurn turn).cut stays
              have both := follows.trans turn cut
              rw [List.append_nil] at both
              exact ⟨_, _, _, after, visited, asked, List.filter_subset_self _,
                Phase.cutOff_below below stays, both⟩

/-- A submission that is followed comes to its end, with the outcome that is answered. -/
theorem follow_follows (fuel : Nat)
    (serve : ∀ hook ∈ hooks, Serves environment hook.2 fun told => resultsOf told.1)
    (turn : w.OnTurn index call phase) (may : phase.MayTry call) (enough : phase.rank call ≤ fuel) :
    ∃ outcome told w', exec (follow call fuel hooks phase) w.state = (.ok (outcome, told), w'.state) ∧
      (hooks = [] → told = []) ∧ w.Follows environment index call (resultsOf told) (.done outcome) w' := by
  -- The rank of the phase bounds the steps that are left, so fuel of that size never runs out before the submission
  -- ends.
  induction fuel generalizing hooks phase w with
  | zero =>
      obtain ⟨outcome, rfl⟩ := Phase.eq_done_of_rank (Nat.le_zero.1 enough)
      exact ⟨outcome, [], w, rfl, fun _ => rfl, turn.stay⟩
  | succ fuel ih =>
      rcases Nat.eq_zero_or_pos (phase.rank call) with none | running
      · obtain ⟨outcome, rfl⟩ := Phase.eq_done_of_rank none
        exact ⟨outcome, [], w, rfl, fun _ => rfl, turn.stay⟩
      · obtain ⟨next, s, stepped, below⟩ := Phase.step_below may running w.state
        have advances : w.Follows environment index call [] next
            ⟨s, w.calls.set index ⟨call, next⟩⟩ := turn.advance stepped
        obtain ⟨told, left, after, w₂, visited, silent, fewer, less, visits⟩ :=
          visit_follows serve (advances.onTurn turn) below
        obtain ⟨outcome, more, w₃, followed, quiet, follows⟩ :=
          ih (fun hook member => serve hook (fewer member)) (visits.onTurn (advances.onTurn turn)) less.1
            (Nat.le_of_lt_succ (Nat.lt_of_lt_of_le less.2 enough))
        refine ⟨outcome, told ++ more, w₃, ?_, ?_, ?_⟩
        · rw [follow, exec_bind_ok stepped, exec_bind_ok visited]
          · simp only
            rw [exec_bind_ok followed]
            rfl
          · rintro outcome rfl
            exact absurd running (Nat.lt_irrefl 0)
        · intro none
          rw [none] at fewer
          rw [silent none, quiet (List.eq_nil_of_subset_nil fewer), List.append_nil]
        · have both := (advances.trans turn visits).trans turn follows
          rwa [List.nil_append, ← resultsOf_append] at both

end Submission

/-! ### Steps of a session -/

namespace Session

open World

variable {environment : Environment} {hooks : Hooks Answer}

/-- A submission with hooks that serve comes to its end, and what its hooks told comes behind it. -/
theorem submitWith_serves
    (serve : ∀ hook ∈ hooks, Serves environment hook.2 fun told => resultsOf told.1) (id : String)
    (role : Value) (decision : Decision) (comment : Value) :
    ∀ w : World, w.atRest = true → ∃ outcome told w',
      exec (Approval.submitWith (.text id) role decision comment environment.terms hooks) w.state =
        (.ok (outcome, told), w'.state) ∧
      (hooks = [] → told = []) ∧
      w.Leads environment (outcome.toOption.toList ++ resultsOf told) w' := by
  intro w rest
  let call : Submission := ⟨.text id, role, decision, comment,
    idText "LOCK" (w.state.taken "LOCK" + 1), environment.terms⟩
  let made : World := ⟨w.state.afterNew "LOCK", w.calls ++ [⟨call, .claiming 0⟩]⟩
  have makes : Runs environment inTurn w made :=
    .next .stay (.submit id role decision comment environment.terms) rest (by rw [take, exec_newId])
  have turn : made.OnTurn w.calls.length call (.claiming 0) := by
    constructor
    · simp [made]
    · simpa [made, World.atRest] using rest
    · simp [made]
  obtain ⟨outcome, told, w', followed, quiet, runs, later, became, ended, tells⟩ :=
    Submission.follow_follows ((Phase.claiming 0).rank call) serve turn trivial (Nat.le_refl _)
  refine ⟨outcome, told, w', ?_, quiet, makes.trans runs, ⟨call, .done outcome⟩ :: later, ?_, ?_, ?_⟩
  · rw [Approval.submitWith, exec_bind_ok (exec_newId "LOCK" w.state)]
    exact followed
  · rw [became]
    simp [made]
  · rw [List.all_cons, ended]
    rfl
  · rw [← tells]
    cases outcome <;> rfl

theorem run_of_isCommand {step : Step} (command : step.isCommand = true) :
    step.run environment = (do return .plain (← attempt (step.value environment))) := by
  cases step <;> first | rfl | cases command

/-- Every command serves. -/
theorem run_serves_of_isCommand {step : Step} (command : step.isCommand = true) :
    Serves environment (step.run environment) Answer.results := by
  intro w rest
  refine ⟨.plain (exec (step.value environment) w.state).1, _, ?_, Leads.command rest command⟩
  rw [run_of_isCommand command]
  rfl

/-- Two states with the same store and the same ids taken. -/
structure Around (s s' : ServiceState) : Prop where
  store : s'.store = s.store
  counters : s'.counters = s.counters

namespace Around

theorem refl (s : ServiceState) : Around s s := ⟨rfl, rfl⟩

theorem trans {s s' s'' : ServiceState} (first : Around s s') (second : Around s' s'') : Around s s'' :=
  ⟨second.store.trans first.store, second.counters.trans first.counters⟩

theorem microsOf (v : Value) : Within Around (microsOf v) := by
  apply Within.of_unmoved refl
  intro s
  unfold Session.microsOf
  split <;> try rfl
  split <;> rfl

theorem waitWithin (micros : Int) : Within Around (waitWithin micros) := by
  intro s
  rw [Service.waitWithin, exec_bind, exec_get]
  simp only
  split <;> exact ⟨rfl, rfl⟩

end Around

/-- What only changes what surrounds the store serves. -/
theorem run_serves_of_around {step : Step}
    (runs : step.run environment = (do return .plain (← attempt (step.value environment))))
    (around : Within Around (step.value environment)) :
    Serves environment (step.run environment) Answer.results := by
  intro w rest
  have same := around w.state
  refine ⟨.plain (exec (step.value environment) w.state).1, _, ?_,
    Leads.shift rest same.store same.counters⟩
  rw [runs]
  rfl

theorem decisionOf_unmoved (v : Value) (s : ServiceState) : (exec (decisionOf v) s).2 = s := by
  unfold decisionOf
  split <;> rfl

/-- A submission serves when what belongs to its points does. -/
theorem submitAction_serves
    (serve : ∀ hook ∈ hooks, Serves environment hook.2 fun told => resultsOf told.1) (id : String)
    (role decision comment : Value) :
    ∀ w : World, w.atRest = true → ∃ outcome told w',
      exec (submitAction environment (.text id) role decision comment hooks) w.state =
        (.ok (outcome, told), w'.state) ∧
      (hooks = [] → told = []) ∧
      w.Leads environment (outcome.toOption.toList ++ resultsOf told) w' := by
  intro w rest
  have unmoved := decisionOf_unmoved decision w.state
  rw [submitAction, exec_bind, exec_attempt, unmoved]
  cases (exec (decisionOf decision) w.state).1 with
  | error failure => exact ⟨.error failure, [], w, rfl, fun _ => rfl, .refl w⟩
  | ok decision => exact submitWith_serves serve id role decision comment w rest

mutual

/-- Every step that keeps to the commands serves. -/
theorem Step.run_serves (step : Step) (proper : step.isProper = true) :
    Serves environment (step.run environment) Answer.results := by
  cases step with
  | submitAction id role decision comment during =>
      cases id with
      | text id =>
          cases during with
          | none =>
              intro w rest
              have serve : ∀ hook ∈ ([] : Hooks Answer),
                  Serves environment hook.2 fun told => resultsOf told.1 := by simp
              obtain ⟨outcome, told, w', ran, quiet, leads⟩ :=
                submitAction_serves serve id role decision comment w rest
              obtain rfl := quiet rfl
              rw [resultsOf, List.append_nil] at leads
              refine ⟨.submission outcome none, w', ?_, leads⟩
              rw [Step.run, hooksOf?, exec_bind_ok ran]
              rfl
          | some during =>
              intro w rest
              obtain ⟨outcome, told, w', ran, -, leads⟩ :=
                submitAction_serves (hooksOf_serve during proper) id role decision comment w rest
              refine ⟨.submission outcome (some told), w', ?_, leads⟩
              rw [Step.run, hooksOf?, exec_bind_ok ran]
              rfl
      | _ => cases proper
  | setOutage down => exact run_serves_of_around rfl fun s => ⟨rfl, rfl⟩
  | advanceClock micros =>
      have moved : Within Around (microsOf micros >>= waitWithin) :=
        .bind @Around.trans (Around.microsOf micros) Around.waitWithin
      exact run_serves_of_around rfl (.bind @Around.trans moved fun _ => .pure Around.refl _)
  | crash => exact run_serves_of_around rfl (.throw Around.refl _)
  | _ => exact run_serves_of_isCommand proper

theorem runUntilCrash_serves (steps : List Step) (proper : areProper steps = true) :
    Serves environment (runUntilCrash environment steps) fun told => resultsOf told.1 := by
  cases steps with
  | nil => exact fun w rest => ⟨([], false), w, rfl, .refl w⟩
  | cons step rest =>
      obtain ⟨first, others⟩ := Bool.and_eq_true_iff.1 proper
      intro w still
      by_cases breaks : step = .crash
      · subst breaks
        exact ⟨([], true), w, rfl, .refl w⟩
      · obtain ⟨answer, w₁, ran, leads⟩ := Step.run_serves step first w still
        obtain ⟨⟨answers, broken⟩, w₂, later, behind⟩ :=
          runUntilCrash_serves rest others w₁ (leads.atRest still)
        refine ⟨(answer :: answers, broken), w₂, ?_, leads.trans behind⟩
        rw [runUntilCrash, exec_bind_ok ran, exec_bind_ok later]
        · rfl
        · exact breaks

theorem hooksOf_serve (during : List (Point × List Step)) (proper : areProperAt during = true) :
    ∀ hook ∈ hooksOf environment during, Serves environment hook.2 fun told => resultsOf told.1 := by
  cases during with
  | nil =>
      intro hook member
      cases member
  | cons first rest =>
      obtain ⟨point, steps⟩ := first
      obtain ⟨these, others⟩ := Bool.and_eq_true_iff.1 proper
      intro hook member
      rcases List.mem_cons.1 member with rfl | member
      · exact runUntilCrash_serves steps these
      · exact hooksOf_serve rest others hook member

end

theorem turn_serves {step : Step} (proper : step.isProper = true) :
    Serves environment (turn environment step) fun turn => turn.answer.results := by
  intro w rest
  have empties : w.Leads environment [] ⟨{ w.state with journal := [] }, w.calls⟩ :=
    .shift rest rfl rfl
  obtain ⟨answer, w', ran, leads⟩ := Step.run_serves step proper _ (empties.atRest rest)
  refine ⟨⟨answer, w'.state.journal.reverse⟩, w', ?_, empties.trans leads⟩
  rw [turn, exec_bind_ok (exec_modify _ _), exec_bind_ok ran]
  rfl

/-- The steps of a session lead on from every world at rest, also where the session fails between two of them. -/
theorem turns_leads (steps : List Step) (proper : areProper steps = true) (w : World)
    (rest : w.atRest = true) :
    ∃ results w', (exec (turns environment steps) w.state).2 = w'.state ∧
      w.Leads environment results w' ∧
      ∀ answered, (exec (turns environment steps) w.state).1 = .ok answered →
        answered.flatMap (fun turn => turn.answer.results) = results := by
  -- The induction is on the steps. A session may fail while it waits for the tick between two of them: the run then
  -- ends in the world that the waiting left, and nothing is claimed of answers.
  induction steps generalizing w with
  | nil =>
      refine ⟨[], w, rfl, .refl w, fun answered same => ?_⟩
      cases same
      rfl
  | cons step others ih =>
      obtain ⟨first, later⟩ := Bool.and_eq_true_iff.1 proper
      have around := Around.waitWithin tick w.state
      rw [turns, exec_bind]
      cases waits : exec (waitWithin tick) w.state with
      | mk outcome s =>
          rw [waits] at around
          have moves : w.Leads environment [] ⟨s, w.calls⟩ := .shift rest around.store around.counters
          cases outcome with
          | error failure => exact ⟨[], ⟨s, w.calls⟩, rfl, moves, fun answered same => by cases same⟩
          | ok _ =>
              obtain ⟨turn, w₁, ran, leads⟩ := turn_serves first ⟨s, w.calls⟩ (moves.atRest rest)
              have there := moves.trans leads
              obtain ⟨results, w₂, state, behind, tells⟩ := ih later w₁ (there.atRest rest)
              have goes : exec (Session.turn environment step >>= fun first =>
                  turns environment others >>= fun rest => pure (first :: rest)) s =
                    ((exec (turns environment others) w₁.state).1.map (turn :: ·),
                      (exec (turns environment others) w₁.state).2) := by
                rw [exec_bind_ok ran, bind_pure_comp, exec_map]
              refine ⟨_, w₂, ?_, there.trans behind, ?_⟩
              · simp only
                rw [goes]
                exact state
              · simp only
                rw [goes]
                intro answered same
                cases rested : (exec (turns environment others) w₁.state).1 with
                | error failure =>
                    rw [rested] at same
                    cases same
                | ok answers =>
                    rw [rested] at same
                    obtain rfl := Except.ok.inj same
                    rw [List.flatMap_cons, tells answers rested]
                    rfl

/-- A session that keeps to the commands is a nested run in which every submission comes to its end, and the
actions that it answers as accepted are those of the submissions. -/
theorem run_leads (steps : List Step) (proper : areProper steps = true) :
    ∃ w, Runs environment inTurn start w ∧ w.calls.all Call.isDone = true ∧
      (exec (turns environment steps) { clock := beginning - tick }).2 = w.state ∧
      ∀ answered, run environment steps = .ok answered →
        answered.flatMap (fun turn => turn.answer.results) = w.calls.filterMap Call.result? := by
  have begins : start.Leads environment [] ⟨{ clock := beginning - tick }, []⟩ := .shift rfl rfl rfl
  obtain ⟨results, w, state, leads, tells⟩ := turns_leads steps proper _ (begins.atRest rfl)
  obtain ⟨runs, later, became, ended, told⟩ := begins.trans leads
  obtain rfl : w.calls = later := became
  exact ⟨w, runs, ended, state, fun answered same => (tells answered same).trans told.symm⟩

end Session

end Countersign
