/-
Module: Countersign.Proofs.Submission.Passages
Purpose: How submissions that go on alone come from one phase to another, and how they are run.
Main exports: Stage, Stage.Ready, Stage.Next, Stage.Passes, Stage.Ready.passes, Stage.Passes.exec_follow_done,
  Stage.CutAt, Stage.CutAt.exec_follow, Approval.exec_submitWith
-/
import Countersign.Proofs.Submission.Effects
import Countersign.Proofs.Submission.Endings
import Countersign.Proofs.Submission.Steps

namespace Countersign

open Service

/-!
A submission that nobody interrupts takes one step after the other. What it does then does not depend on what would
run at points that it does not come to, so the steps in front of a point at which its connection breaks are those
that it takes where nothing breaks.
-/

/-- A submission under way: the ledger that the store shows, the service, and how far it has come. -/
structure Stage where
  ledger : Ledger
  state : ServiceState
  phase : Phase

namespace Stage

variable {call : Submission} {id : String} {points more : List Point} {stage next last : Stage}

/-- A stage from which a submission goes on by the rules of its phases, while the store is up. -/
structure Ready (call : Submission) (id : String) (stage : Stage) : Prop where
  on : call.On id
  shown : stage.ledger.ShownBy stage.state.store
  linked : stage.ledger.Linked (stage.state.taken "ACT")
  knows : stage.phase.Knows stage.ledger id call.token
  may : stage.phase.MayTry call
  up : stage.state.down = false

/-- The next stage of a submission. -/
def Next (call : Submission) (id : String) (stage next : Stage) : Prop :=
  stage.phase.Goes call id stage.ledger stage.state next.phase next.state next.ledger

/-- Some steps of a submission, and the points that it comes to with them. -/
inductive Passes (call : Submission) (id : String) : List Point → Stage → Stage → Prop where
  | stay (stage : Stage) : Passes call id [] stage stage
  | on {points : List Point} {stage next last : Stage} (goes : Next call id stage next)
      (later : Passes call id points next last) :
      Passes call id (next.phase.point?.toList ++ points) stage last

/-- A submission that has come to its end stays as it is. -/
theorem Next.of_done {outcome : Except Failure ActionResult} (goes : Next call id stage next)
    (ended : stage.phase = .done outcome) : next.phase = .done outcome ∧ next.state = stage.state := by
  have ran := goes.ran
  rw [ended] at ran
  have stays : exec ((Phase.done outcome).step call) stage.state = (.ok (.done outcome), stage.state) := rfl
  obtain ⟨same, still⟩ := Prod.mk.inj (stays.symm.trans ran)
  exact ⟨(Except.ok.inj same).symm, still.symm⟩

namespace Ready

/-- There is a next stage. -/
theorem exists_next (ready : stage.Ready call id) : ∃ next, Next call id stage next := by
  obtain ⟨next, s', after, goes⟩ := Phase.step_goes ready.on ready.shown ready.linked ready.knows
  exact ⟨⟨after, s', next⟩, goes⟩

/-- It is one to which the phase may go while the store is up. -/
theorem exists_moves (ready : stage.Ready call id) :
    ∃ after s' next, Next call id stage ⟨after, s', next⟩ ∧
      stage.phase.Moves call id false stage.ledger after next := by
  obtain ⟨next, s', after, goes⟩ := Phase.step_goes ready.on ready.shown ready.linked ready.knows
  exact ⟨after, s', next, goes, ready.up ▸ goes.moves⟩

/-- A submission that has not ended has fewer steps left at the next stage. -/
theorem below (ready : stage.Ready call id) (goes : Next call id stage next) (running : 0 < stage.phase.rank call) :
    next.phase.Below call (stage.phase.rank call) := by
  obtain ⟨phase, s, ran, below⟩ := Phase.step_below ready.may running stage.state
  obtain ⟨same, -⟩ := Prod.mk.inj (ran.symm.trans goes.ran)
  exact Except.ok.inj same ▸ below

/-- A submission may go on from the next stage, too. -/
theorem after (ready : stage.Ready call id) (goes : Next call id stage next) : next.Ready call id where
  on := ready.on
  shown := goes.shows
  linked := goes.moves.linked ready.shown.sound ready.knows goes.counts ready.linked
  knows := goes.moves.knows ready.shown.sound ready.knows
  may := by
    rcases Nat.eq_zero_or_pos (stage.phase.rank call) with idle | running
    · obtain ⟨outcome, ended⟩ := Phase.eq_done_of_rank idle
      rw [(goes.of_done ended).1]
      trivial
    · exact (ready.below goes running).1
  up := goes.down.trans ready.up

theorem passes (ready : stage.Ready call id) (passes : Passes call id points stage last) : last.Ready call id := by
  induction passes with
  | stay stage => exact ready
  | on goes later ih => exact ih (ready.after goes)

/-- Where the connection breaks a submission goes on by the rules, too. -/
theorem cutOff (ready : stage.Ready call id) : Ready call id { stage with phase := stage.phase.cutOff } where
  on := ready.on
  shown := ready.shown
  linked := ready.linked
  knows := ready.knows.cutOff
  may := by cases stage.phase <;> trivial
  up := ready.up

end Ready

namespace Passes

theorem trans (one : Passes call id points stage next) (two : Passes call id more next last) :
    Passes call id (points ++ more) stage last := by
  induction one with
  | stay stage => exact two
  | on goes later ih =>
      rw [List.append_assoc]
      exact .on goes (ih two)

/-- A step to a phase that is no point may come first. -/
theorem quietly (goes : Next call id stage next) (silent : next.phase.point? = none)
    (later : Passes call id points next last) : Passes call id points stage last := by
  have passes := Passes.on goes later
  rwa [silent, Option.toList_none, List.nil_append] at passes

/-- One step to a phase that is no point. -/
theorem silent (goes : Next call id stage next) (silent : next.phase.point? = none) :
    Passes call id [] stage next := by
  have passes := Passes.on goes (.stay next)
  rwa [silent] at passes

/-- One step to a point. -/
theorem point {point : Point} (goes : Next call id stage next) (here : next.phase.point? = some point) :
    Passes call id [point] stage next := by
  have passes := Passes.on goes (.stay next)
  rwa [here] at passes

end Passes

/-! ### Running submissions -/

variable {β : Type} {hooks : Hooks β} {fuel : Nat}

/-- What belongs to no hook is not visited. -/
theorem exec_visit_unhooked {phase : Phase} (unhooked : ∀ point ∈ phase.point?, hooks.lookup point = none)
    (s : ServiceState) : exec (Submission.visit hooks phase) s = (.ok ([], hooks, phase), s) := by
  rw [Submission.visit]
  split
  · rfl
  · next point here =>
      simp only [unhooked point here]
      rfl

/-- A step is followed by what comes behind the visit at the phase that it leads to. -/
theorem exec_follow_visited {left : Hooks β} {phase reached visited : Phase} {s s' : ServiceState}
    (ran : exec (phase.step call) s = (.ok reached, s')) (running : 0 < phase.rank call)
    (visits : exec (Submission.visit hooks reached) s' = (.ok ([], left, visited), s')) :
    exec (Submission.follow call (fuel + 1) hooks phase) s = exec (Submission.follow call fuel left visited) s' := by
  rw [Submission.follow, exec_bind_ok ran, exec_bind_ok visits]
  · simp only
    rw [exec_bind]
    cases exec (Submission.follow call fuel left visited) s' with
    | mk outcome s =>
        cases outcome with
        | ok told => rfl
        | error failure => rfl
  · rintro outcome ended
    rw [ended] at running
    exact absurd running (Nat.lt_irrefl 0)

/-- So it is where nothing else runs. -/
theorem exec_follow_step {phase reached : Phase} {s s' : ServiceState}
    (ran : exec (phase.step call) s = (.ok reached, s')) (running : 0 < phase.rank call) (fuel : Nat) :
    exec (Submission.follow call (fuel + 1) ([] : Hooks β) phase) s =
      exec (Submission.follow call fuel ([] : Hooks β) reached) s' :=
  exec_follow_visited ran running (exec_visit_unhooked (fun _ _ => rfl) s')

/-- Steps that lead to no point with a hook are followed by what comes behind them. -/
theorem Passes.exec_follow (passes : Passes call id points stage last) (ready : stage.Ready call id)
    (unhooked : ∀ point ∈ points, hooks.lookup point = none) (enough : stage.phase.rank call ≤ fuel) :
    ∃ left, last.phase.rank call ≤ left ∧
      exec (Submission.follow call fuel hooks stage.phase) stage.state =
        exec (Submission.follow call left hooks last.phase) last.state := by
  induction passes generalizing fuel with
  | stay stage => exact ⟨fuel, enough, rfl⟩
  | @on points stage next last goes later ih =>
      have others : ∀ point ∈ points, hooks.lookup point = none :=
        fun point member => unhooked point (List.mem_append_right _ member)
      rcases Nat.eq_zero_or_pos (stage.phase.rank call) with idle | running
      · obtain ⟨outcome, ended⟩ := Phase.eq_done_of_rank idle
        obtain ⟨same, still⟩ := goes.of_done ended
        have fewer : next.phase.rank call ≤ fuel := by
          rw [same, ← ended]
          exact enough
        obtain ⟨left, enough, followed⟩ := ih (ready.after goes) others fewer
        exact ⟨left, enough, by rw [← followed, same, still, ended]⟩
      · obtain ⟨fuel, rfl⟩ : ∃ less, fuel = less + 1 := ⟨fuel - 1, by omega⟩
        have below := (ready.below goes running).2
        have fewer : next.phase.rank call ≤ fuel := by omega
        obtain ⟨left, enough, followed⟩ := ih (ready.after goes) others fewer
        refine ⟨left, enough, ?_⟩
        rw [← followed]
        exact exec_follow_visited goes.ran running (exec_visit_unhooked (fun point here =>
          unhooked point (List.mem_append_left _ (Option.mem_toList.2 here))) _)

/-- Steps to the end, at no point with a hook, give the outcome that they lead to. -/
theorem Passes.exec_follow_done {outcome : Except Failure ActionResult} (passes : Passes call id points stage last)
    (ready : stage.Ready call id) (unhooked : ∀ point ∈ points, hooks.lookup point = none)
    (enough : stage.phase.rank call ≤ fuel) (ended : last.phase = .done outcome) :
    exec (Submission.follow call fuel hooks stage.phase) stage.state = (.ok (outcome, []), last.state) := by
  obtain ⟨left, -, followed⟩ := passes.exec_follow ready unhooked enough
  rw [followed, ended]
  cases left <;> rfl

/-- So do steps to the end where nothing comes in between. -/
theorem Passes.exec_alone {outcome : Except Failure ActionResult} (passes : Passes call id points stage last)
    (ready : stage.Ready call id) (enough : stage.phase.rank call ≤ fuel) (ended : last.phase = .done outcome) :
    exec (Submission.follow call fuel ([] : Hooks β) stage.phase) stage.state = (.ok (outcome, []), last.state) :=
  passes.exec_follow_done ready (fun _ _ => rfl) enough ended

/-- What runs at a point where the connection breaks. -/
def breaksAt (point : Point) : Hooks β := [(point, pure ([], true))]

theorem exec_visit_breaksAt {point : Point} {phase : Phase} (here : phase.point? = some point) (s : ServiceState) :
    exec (Submission.visit (breaksAt point : Hooks β) phase) s = (.ok ([], [], phase.cutOff), s) := by
  have dropped : (breaksAt point : Hooks β).filter (·.1 != point) = [] := by simp [breaksAt]
  have found : (breaksAt point : Hooks β).lookup point = some (pure ([], true)) := by simp [breaksAt]
  rw [Submission.visit, here]
  simp only [found, dropped]
  rfl

/-- A submission comes to a point for the first time, its connection breaks there, and it goes on from there. -/
inductive CutAt (call : Submission) (id : String) (point : Point) (stage last : Stage) : Prop where
  | cut {points more : List Point} {next cut : Stage} (passes : Passes call id points stage next)
      (early : point ∉ points) (goes : Next call id next cut) (here : cut.phase.point? = some point)
      (later : Passes call id more { cut with phase := cut.phase.cutOff } last) : CutAt call id point stage last

/-- This is what happens where the connection breaks at the point alone. -/
theorem CutAt.exec_follow {point : Point} {outcome : Except Failure ActionResult}
    (broken : CutAt call id point stage last) (ready : stage.Ready call id) (ended : last.phase = .done outcome)
    (enough : stage.phase.rank call ≤ fuel) :
    exec (Submission.follow call fuel (breaksAt point : Hooks β) stage.phase) stage.state =
      (.ok (outcome, []), last.state) := by
  obtain @⟨points, more, next, cut, passes, early, goes, here, later⟩ := broken
  have unhooked : ∀ other ∈ points, (breaksAt point : Hooks β).lookup other = none := by
    intro other member
    have different : other ≠ point := fun same => early (same ▸ member)
    simp [breaksAt, List.lookup_cons, beq_eq_false_iff_ne.2 different]
  obtain ⟨left, enough, followed⟩ := passes.exec_follow ready unhooked enough
  have there := ready.passes passes
  have running : 0 < next.phase.rank call := by
    by_contra none
    obtain ⟨outcome, ended⟩ := Phase.eq_done_of_rank (Nat.eq_zero_of_not_pos none)
    rw [(goes.of_done ended).1] at here
    cases here
  obtain ⟨fuel, rfl⟩ : ∃ less, left = less + 1 := ⟨left - 1, by omega⟩
  have below := Phase.cutOff_below (there.below goes running) (by rw [here]; rfl)
  have fewer : cut.phase.cutOff.rank call ≤ fuel := Nat.le_of_lt_succ (Nat.lt_of_lt_of_le below.2 enough)
  rw [followed, exec_follow_visited goes.ran running (exec_visit_breaksAt here _)]
  exact later.exec_follow_done (there.after goes).cutOff (by simp) fewer ended

end Stage

namespace Approval

variable {β : Type}

/-- The submission that a call makes, with the next token. -/
def made (s : ServiceState) (id : String) (role : Value) (decision : Decision) (comment : Value)
    (terms : LeaseTerms) : Submission :=
  { requestId := .text id, role, decision, comment, token := idText "LOCK" (s.taken "LOCK" + 1), terms }

theorem made_on (s : ServiceState) (id : String) (role : Value) (decision : Decision) (comment : Value)
    (terms : LeaseTerms) : (made s id role decision comment terms).On id := .of_token rfl rfl

theorem exec_submitWith (id : String) (role : Value) (decision : Decision) (comment : Value) (terms : LeaseTerms)
    (hooks : Hooks β) (s : ServiceState) :
    exec (submitWith (.text id) role decision comment terms hooks) s =
      exec (Submission.follow (made s id role decision comment terms)
        ((Phase.claiming 0).rank (made s id role decision comment terms)) hooks (.claiming 0)) (s.afterNew "LOCK") := by
  rw [submitWith, exec_bind_ok (exec_newId "LOCK" s)]
  rfl

end Approval

end Countersign
