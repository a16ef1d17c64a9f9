/-
Module: Countersign.Proofs.Service.Execution
Purpose: What parts of commands answer and leave behind, one combinator at a time.
Main exports: Service.exec, Service.exec_bind, Service.exec_attempt, Service.Within, Service.Within.bind,
  Service.Keeps, Service.Keeps.bind, Service.exists_of_answer
-/
import Countersign.Service.Basic

namespace Countersign

namespace Service

/-!
`part.exec s` is the answer of a part of a command that begins in the state `s`, together with the state
that it leaves behind. The equations below take a command apart at its binds. Where only the states before
and after matter, `Within` says that every run of a part stays within a relation of states; a relation that
goes nowhere and can be continued is kept by all combinators.
-/

variable {α β : Type}

/-- The answer of a part of a command, and the state that it leaves behind. -/
def exec (part : Service α) (s : ServiceState) : Except Failure α × ServiceState := part.run s

@[simp] theorem exec_pure (a : α) (s : ServiceState) : exec (pure a) s = (.ok a, s) := rfl

@[simp] theorem exec_throw (failure : Failure) (s : ServiceState) :
    exec (throw failure : Service α) s = (.error failure, s) := rfl

theorem exec_bind (part : Service α) (next : α → Service β) (s : ServiceState) :
    exec (part >>= next) s =
      match exec part s with
      | (.ok a, s') => exec (next a) s'
      | (.error failure, s') => (.error failure, s') := by
  change (match part s with | (outcome, s') => ExceptT.bindCont next outcome s') = _
  change _ = match part s with
    | (.ok a, s') => exec (next a) s'
    | (.error failure, s') => (.error failure, s')
  cases part s with
  | mk outcome s' => cases outcome <;> rfl

/-- Go on after a part that succeeded. -/
theorem exec_bind_ok {part : Service α} {s s' : ServiceState} {a : α}
    (ran : exec part s = (.ok a, s')) (next : α → Service β) :
    exec (part >>= next) s = exec (next a) s' := by
  rw [exec_bind, ran]

/-- What fails ends the command. -/
theorem exec_bind_error {part : Service α} {s s' : ServiceState} {failure : Failure}
    (ran : exec part s = (.error failure, s')) (next : α → Service β) :
    exec (part >>= next) s = (.error failure, s') := by
  rw [exec_bind, ran]

/-- What succeeded in the end succeeded in its first part. -/
theorem exists_of_exec_bind {part : Service α} {next : α → Service β} {s s' : ServiceState} {b : β}
    (ran : exec (part >>= next) s = (.ok b, s')) :
    ∃ a between, exec part s = (.ok a, between) ∧ exec (next a) between = (.ok b, s') := by
  rw [exec_bind] at ran
  cases first : exec part s with
  | mk outcome between =>
      rw [first] at ran
      cases outcome with
      | ok a => exact ⟨a, between, rfl, ran⟩
      | error failure => cases ran

theorem exec_map (f : α → β) (part : Service α) (s : ServiceState) :
    exec (f <$> part) s = ((exec part s).1.map f, (exec part s).2) := by
  rw [← bind_pure_comp, exec_bind]
  cases exec part s with
  | mk outcome s' => cases outcome <;> rfl

@[simp] theorem exec_get (s : ServiceState) : exec (get : Service ServiceState) s = (.ok s, s) := rfl

@[simp] theorem exec_modify (f : ServiceState → ServiceState) (s : ServiceState) :
    exec (modify f : Service Unit) s = (.ok (), f s) := rfl

@[simp] theorem exec_attempt (part : Service α) (s : ServiceState) :
    exec (attempt part) s = (.ok (exec part s).1, (exec part s).2) := rfl

@[simp] theorem exec_refuse (refusal : Refusal) (s : ServiceState) :
    exec (refuse refusal : Service α) s = (.error (.refused refusal), s) := rfl

@[simp] theorem exec_accept_accepted (a : α) (s : ServiceState) :
    exec (accept (.accepted a)) s = (.ok a, s) := rfl

@[simp] theorem exec_now (s : ServiceState) : exec now s = (.ok (Moment.ofClock s.clock), s) := rfl

@[simp] theorem exec_seconds (s : ServiceState) :
    exec seconds s = (.ok (Double.ofRatio (s.clock < 0) s.clock.natAbs 1000000), s) := rfl

@[simp] theorem exec_found_ok (a : α) (s : ServiceState) :
    exec (found (.ok a)) s = (.ok a, s) := rfl

theorem exec_reach_up {s : ServiceState} (up : s.down = false) :
    exec reach s = (.ok s.store, s) := by
  rw [reach, exec_bind, exec_get]
  simp only [up, Bool.false_eq_true, if_false, exec_pure]

theorem exec_reach_down {s : ServiceState} (down : s.down = true) :
    exec reach s = (.error .storeDown, s) := by
  rw [reach, exec_bind, exec_get]
  simp only [down, if_true, exec_throw]

@[simp] theorem exec_write (collection : Collection) (table : Table) (s : ServiceState) :
    exec (write collection table) s =
      (.ok (), { s with store := s.store.setTable collection table }) := rfl

/-! ### Relations between the states before and after -/

/-- Every run of a part stays within a relation of states. -/
def Within (related : ServiceState → ServiceState → Prop) (part : Service α) : Prop :=
  ∀ s, related s (exec part s).2

namespace Within

variable {related : ServiceState → ServiceState → Prop}

theorem of_unmoved (reflexive : ∀ s, related s s) {part : Service α}
    (unmoved : ∀ s, (exec part s).2 = s) : Within related part := by
  intro s
  rw [unmoved s]
  exact reflexive s

theorem pure (reflexive : ∀ s, related s s) (a : α) : Within related (pure a : Service α) :=
  of_unmoved reflexive fun _ => rfl

theorem throw (reflexive : ∀ s, related s s) (failure : Failure) :
    Within related (throw failure : Service α) :=
  of_unmoved reflexive fun _ => rfl

theorem bind (transitive : ∀ {a b c}, related a b → related b c → related a c)
    {part : Service α} {next : α → Service β}
    (first : Within related part) (second : ∀ a, Within related (next a)) :
    Within related (part >>= next) := by
  intro s
  have before := first s
  rw [exec_bind]
  cases ran : exec part s with
  | mk outcome s' =>
      rw [ran] at before
      cases outcome with
      | ok a => exact transitive before (second a s')
      | error failure => exact before

theorem map {f : α → β} {part : Service α} (first : Within related part) :
    Within related (f <$> part) := by
  intro s
  rw [exec_map]
  exact first s

theorem attempt {part : Service α} (first : Within related part) :
    Within related (attempt part) := first

end Within

/-! ### What every part of a command keeps -/

/-- A part after which holds what held before it, whether it fails or not. -/
def Keeps (kept : ServiceState → Prop) (part : Service α) : Prop :=
  Within (fun s s' => kept s → kept s') part

namespace Keeps

variable {kept : ServiceState → Prop}

theorem of_unmoved {part : Service α} (unmoved : ∀ s, (exec part s).2 = s) : Keeps kept part :=
  Within.of_unmoved (fun _ => id) unmoved

theorem pure {a : α} : Keeps kept (pure a : Service α) := Within.pure (fun _ => id) a

theorem throw {failure : Failure} : Keeps kept (throw failure : Service α) :=
  Within.throw (fun _ => id) failure

/-- What holds after a part holds after what follows it. -/
theorem after_bind {part : Service α} {next : α → Service β} {s : ServiceState} (first : kept (exec part s).2)
    (second : ∀ a, Keeps kept (next a)) : kept (exec (part >>= next) s).2 := by
  rw [exec_bind]
  cases ran : exec part s with
  | mk outcome s' =>
      rw [ran] at first
      cases outcome with
      | ok a => exact second a s' first
      | error failure => exact first

theorem bind {part : Service α} {next : α → Service β} (first : Keeps kept part)
    (second : ∀ a, Keeps kept (next a)) : Keeps kept (part >>= next) :=
  fun s before => after_bind (first s before) second

/-- What follows a part need only go on from what the part answers. -/
theorem bind_answer {part : Service α} {next : α → Service β} (first : Keeps kept part)
    (second : ∀ {s a s'}, exec part s = (.ok a, s') → Keeps kept (next a)) : Keeps kept (part >>= next) := by
  intro s before
  have middle := first s before
  rw [exec_bind]
  cases ran : exec part s with
  | mk outcome s' =>
      rw [ran] at middle
      cases outcome with
      | ok a => exact second ran s' middle
      | error failure => exact middle

theorem map {f : α → β} {part : Service α} (first : Keeps kept part) : Keeps kept (f <$> part) :=
  Within.map first

theorem ite {condition : Prop} [Decidable condition] {yes no : Service α} (first : Keeps kept yes)
    (second : Keeps kept no) : Keeps kept (if condition then yes else no) := by
  split
  · exact first
  · exact second

theorem attempt {part : Service α} (first : Keeps kept part) : Keeps kept (attempt part) :=
  Within.attempt first

end Keeps

end Service

/-- What a part of a command answers is known by a test of it. -/
theorem Service.exists_of_answer {α : Type} (part : Service α) (s : ServiceState) (test : α → Bool)
    (answered : (exec part s).1.toOption.any test = true) :
    ∃ a s', exec part s = (.ok a, s') ∧ test a = true := by
  cases ran : exec part s with
  | mk outcome s' =>
      rw [ran] at answered
      cases outcome with
      | ok a => exact ⟨a, s', rfl, answered⟩
      | error failure => cases answered

/-- Writing to the journal touches nothing else. -/
theorem Service.exec_note (level : Level) (source : Source) (message : String) (details : Fields)
    (exception : Bool) (s : ServiceState) :
    ∃ journal, exec (note level source message details exception) s =
      (.ok (), { s with journal }) := ⟨_, rfl⟩

end Countersign
