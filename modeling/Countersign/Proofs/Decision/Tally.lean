/-
Module: Countersign.Proofs.Decision.Tally
Purpose: The automaton that a request is, and that replaying a history comes to the same.
Main exports: Tally, Tally.decide, Tally.ofHistory, Tally.decide_ofHistory, Tally.Verdict, Tally.Follows,
  Tally.Follows.eq_ofHistory
-/
import Countersign.Proofs.Decision.Replay
import Countersign.Proofs.Ledger.Recording
import Countersign.Proofs.World.Basic
import Mathlib.Data.Finset.Dedup
import Mathlib.Data.Finset.Insert

namespace Countersign

/-!
A request is an automaton: it knows where it stands and which roles have approved, and every decision of a role is
refused or makes one step. The service keeps no such set. It replays the whole history for every decision, and what
the history amounts to is the state of the automaton after the decisions in it.
-/

/-- Where a request stands, and the roles that have approved it. -/
structure Tally where
  status : ApprovalStatus
  approved : Finset String
deriving DecidableEq

namespace Tally

variable {required : List String} {role : String} {decision : Decision} {tally next : Tally}
  {steps : List (String × Decision)}

/-- Nobody has decided anything. -/
def start : Tally := ⟨.pending, ∅⟩

/-- What the decision of a role makes of a tally, or the kind of error with which it is refused. -/
def decide (required : List String) (tally : Tally) (role : String) (decision : Decision) :
    Except ErrorKind Tally :=
  if role ∉ required then .error .invalidRole
  else if tally.status.isTerminal then .error .alreadyTerminal
  else
    match decision with
    | .approve =>
        if role ∈ tally.approved then .error .duplicateApproval
        else
          .ok ⟨if required.toFinset ⊆ insert role tally.approved then .approved else .pending,
            insert role tally.approved⟩
    | .reject => .ok { tally with status := .rejected }
    | .requestChanges => .ok tally

/-! ### Replaying a history -/

/-- What a history amounts to. -/
def ofHistory (required : List String) (steps : List (String × Decision)) : Tally :=
  ⟨.ofHistory required steps, (ApprovalStatus.approvedIn required steps).toFinset⟩

theorem mem_approved_ofHistory :
    role ∈ (ofHistory required steps).approved ↔ role ∈ required ∧ (role, .approve) ∈ steps := by
  rw [ofHistory, List.mem_toFinset, ApprovalStatus.mem_approvedIn]

/-- One more step of a required role makes of a pending history what it makes of the tally. -/
theorem ofHistory_concat (needed : role ∈ required) (waits : ApprovalStatus.ofHistory required steps = .pending)
    (decision : Decision) :
    ofHistory required (steps ++ [(role, decision)]) =
      match decision with
      | .approve =>
          ⟨if required.toFinset ⊆ insert role (ofHistory required steps).approved then .approved else .pending,
            insert role (ofHistory required steps).approved⟩
      | .reject => { ofHistory required steps with status := .rejected }
      | .requestChanges => ofHistory required steps := by
  have known : required.contains role = true := List.contains_iff_mem.2 needed
  have goesOn : ApprovalStatus.ofHistory required (steps ++ [(role, decision)]) = _ :=
    ApprovalStatus.ofHistory_append_of_pending waits
  rw [ApprovalStatus.replay_cons, if_pos known] at goesOn
  rw [ofHistory, goesOn]
  cases decision with
  | reject => simp [ofHistory, ApprovalStatus.approvedIn]
  | requestChanges => simp [ofHistory, ApprovalStatus.approvedIn, ApprovalStatus.replay, waits]
  | approve =>
      have more : ApprovalStatus.approvedIn required (steps ++ [(role, .approve)]) =
          role :: ApprovalStatus.approvedIn required steps := by
        simp [ApprovalStatus.approvedIn, needed]
      -- Replaying compares lists of roles, which may name one twice, and the tally has a set of them.
      have all : ApprovalStatus.covers (role :: ApprovalStatus.approvedIn required steps) required = true ↔
          required.toFinset ⊆ insert role (ofHistory required steps).approved := by
        rw [ofHistory, ← List.toFinset_cons, ApprovalStatus.covers_iff]
        exact ⟨fun every other within => List.mem_toFinset.2 (every other (List.mem_toFinset.1 within)),
          fun every other within => List.mem_toFinset.1 (every (List.mem_toFinset.2 within))⟩
      rw [more, List.toFinset_cons]
      by_cases every : required.toFinset ⊆ insert role (ofHistory required steps).approved
      · simp only [if_pos (all.2 every), if_pos every]
        rfl
      · simp only [if_neg (mt all.1 every), if_neg every]
        rfl

/-- Deciding on a tally is replaying the history with one more step, unless the decision is refused. -/
theorem decide_ofHistory (required : List String) (steps : List (String × Decision)) (role : String)
    (decision : Decision) :
    (ofHistory required steps).decide required role decision =
      if role ∉ required then .error .invalidRole
      else if (ApprovalStatus.ofHistory required steps).isTerminal then .error .alreadyTerminal
      else if decision = .approve ∧ (role, .approve) ∈ steps then .error .duplicateApproval
      else .ok (ofHistory required (steps ++ [(role, decision)])) := by
  unfold decide
  by_cases needed : role ∈ required
  · rw [if_neg (not_not_intro needed), if_neg (not_not_intro needed)]
    by_cases terminal : (ApprovalStatus.ofHistory required steps).isTerminal = true
    · rw [if_pos terminal]
      exact if_pos terminal
    · rw [if_neg terminal]
      refine (if_neg terminal).trans ?_
      rw [ofHistory_concat needed (ApprovalStatus.eq_pending_of_not_terminal terminal)]
      cases decision with
      | approve => simp [mem_approved_ofHistory, needed]
      | reject => simp
      | requestChanges => simp
  · rw [if_pos needed, if_pos needed]

end Tally

/-- Why the action of a role is refused on a request with a history, if it is. -/
theorem Submission.objection?_eq {call : Submission} {role : String} (named : call.role = .text role)
    (request : Request) (history : List Action) :
    call.objection? request history =
      if role ∉ request.approvers then some (.roleNotRequired call.requestId call.role request.approvers)
      else if request.status.isTerminal then some (.requestDecided call.requestId request.status)
      else if call.decision = .approve ∧ (role, .approve) ∈ history.map Action.step then
        some (.roleHasApproved call.requestId call.role)
      else none := by
  have required : (!call.isRequired request.approvers) = true ↔ role ∉ request.approvers := by
    simp [isRequired, named, Value.text?]
  have approved : (decide (call.decision = .approve) && call.hasApproved history) = true ↔
      call.decision = .approve ∧ (role, .approve) ∈ history.map Action.step := by
    simp [hasApproved, named, Value.text?, Progress.hasApproved, Action.step]
  simp only [objection?, required, approved]

namespace Tally

/-! ### What submissions make of a request -/

/-- How a submission ends on a request with a tally and a trail, and what it makes of both. It does what the automaton
does, unless the store cannot keep an action that the automaton accepts. -/
inductive Verdict (required : List String) (call : Submission) (tally : Tally) (trail : List Action) :
    Except Failure ActionResult → Tally → List Action → Prop where
  | accepted {role : String} {next : Tally} {result : ActionResult} (named : call.role = .text role)
      (accepts : tally.decide required role call.decision = .ok next)
      (step : result.action.step = (role, call.decision)) (before : result.previousStatus = tally.status)
      (moved : result.request.status = next.status) :
      Verdict required call tally trail (.ok result) next (trail ++ [result.action.kept])
  | refused {role : String} {refusal : Refusal} (named : call.role = .text role)
      (refuses : tally.decide required role call.decision = .error refusal.kind) :
      Verdict required call tally trail (.error (.refused refusal)) tally trail
  | unkept {role : String} {next : Tally} {failure : Failure} (named : call.role = .text role)
      (accepts : tally.decide required role call.decision = .ok next)
      (unkept : Trail.isKept call.role call.comment (trail.length + 1 : Nat) = false)
      (broken : ∀ refusal, failure ≠ .refused refusal) :
      Verdict required call tally trail (.error failure) tally trail

/-- What submissions that came to their end one after the other made of a request. -/
inductive Follows (required : List String) : List Call → Tally → List Action → Prop where
  | start : Follows required [] .start []
  | next {calls : List Call} {tally next : Tally} {trail later : List Action} {call : Submission}
      {outcome : Except Failure ActionResult} (before : Follows required calls tally trail)
      (verdict : Verdict required call tally trail outcome next later) :
      Follows required (calls ++ [⟨call, .done outcome⟩]) next later

variable {call : Submission} {outcome : Except Failure ActionResult} {trail later : List Action}

/-- The tally stays what the trail amounts to. -/
theorem Verdict.eq_ofHistory (verdict : Verdict required call tally trail outcome next later)
    (before : tally = ofHistory required (trail.map Action.step)) :
    next = ofHistory required (later.map Action.step) := by
  subst before
  cases verdict with
  | @accepted role _ result named accepts step before moved =>
      rw [decide_ofHistory] at accepts
      have same : (trail ++ [result.action.kept]).map Action.step =
          trail.map Action.step ++ [(role, call.decision)] := by
        rw [List.map_append, ← step]
        rfl
      rw [same]
      split at accepts
      · cases accepts
      · split at accepts
        · cases accepts
        · split at accepts
          · cases accepts
          · exact (Except.ok.inj accepts).symm
  | refused named refuses => rfl
  | unkept named accepts unkept broken => rfl

theorem Follows.eq_ofHistory {calls : List Call} (follows : Follows required calls tally trail) :
    tally = ofHistory required (trail.map Action.step) := by
  induction follows with
  | start => rfl
  | next before verdict ih => exact verdict.eq_ofHistory ih

/-- What the service holds against an action is what the automaton does. -/
theorem Verdict.of_objection {request : Request} {refusal : Refusal}
    (before : tally = ofHistory request.approvers (trail.map Action.step))
    (standing : request.status = tally.status) (named : call.role = .text role)
    (objection : call.objection? request trail = some refusal) :
    Verdict request.approvers call tally trail (.error (.refused refusal)) tally trail := by
  refine .refused named ?_
  subst before
  rw [Submission.objection?_eq named, standing] at objection
  rw [decide_ofHistory]
  split at objection
  · next missing =>
      rw [if_pos missing, ← Option.some.inj objection]
      rfl
  · next needed =>
      rw [if_neg needed]
      split at objection
      · next terminal =>
          refine (if_pos terminal).trans ?_
          rw [← Option.some.inj objection]
          rfl
      · next open_ =>
          refine (if_neg open_).trans ?_
          split at objection
          · next again =>
              rw [if_pos again, ← Option.some.inj objection]
              rfl
          · cases objection

/-- An action that nothing is held against is one that the automaton accepts. -/
theorem decide_of_fine {request : Request}
    (before : tally = ofHistory request.approvers (trail.map Action.step))
    (standing : request.status = tally.status) (named : call.role = .text role)
    (fine : call.objection? request trail = none) :
    tally.decide request.approvers role call.decision =
      .ok (ofHistory request.approvers (trail.map Action.step ++ [(role, call.decision)])) := by
  subst before
  rw [Submission.objection?_eq named, standing] at fine
  rw [decide_ofHistory]
  split at fine
  · cases fine
  · next needed =>
      rw [if_neg needed]
      split at fine
      · cases fine
      · next open_ =>
          refine (if_neg open_).trans ?_
          split at fine
          · cases fine
          · next fresh => rw [if_neg fresh]

end Tally

end Countersign
