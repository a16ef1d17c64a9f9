/-
Module: Countersign.Proofs.Service.Endings
Purpose: How parts of commands end: with what answers, and with which failures.
Main exports: Failure.Told, Service.Ends, Service.Ends.bind, Service.Tells, Service.findOne_tells
-/
import Countersign.Proofs.Service.Calls

namespace Countersign

/-!
A failure is told to the caller where the command was refused, or where the store itself says what is the matter. All
others are a surprise. How a part of a command may end is put together from the endings of its parts, each in the
state that those in front of it left behind.
-/

/-- A failure that a caller is told of. -/
inductive Failure.Told : Failure → Prop where
  | refused (refusal : Refusal) : Told (.refused refusal)
  | storage {failure : Failure} (speaks : failure.isStorage = true) : Told failure

namespace Service

variable {α β : Type} {s s' : ServiceState} {answered answers : α → Prop} {followed : β → Prop}
  {failed fails : Failure → Prop}

/-- In a state a part of a command answers something of a kind, or it fails in one of some ways. -/
def Ends (answered : α → Prop) (failed : Failure → Prop) (part : Service α) (s : ServiceState) : Prop :=
  match (exec part s).1 with
  | .ok a => answered a
  | .error failure => failed failure

namespace Ends

theorem of_ok {part : Service α} {a : α} (ran : exec part s = (.ok a, s')) (fine : answered a) :
    Ends answered failed part s := by
  rw [Ends, ran]
  exact fine

theorem of_error {part : Service α} {failure : Failure} (ran : exec part s = (.error failure, s'))
    (known : failed failure) : Ends answered failed part s := by
  rw [Ends, ran]
  exact known

theorem pure {a : α} (fine : answered a) : Ends answered failed (pure a : Service α) s := fine

theorem throw {failure : Failure} (known : failed failure) : Ends answered failed (throw failure : Service α) s := known

theorem answer {part : Service α} {a : α} (ends : Ends answered failed part s) (ran : exec part s = (.ok a, s')) :
    answered a := by
  rwa [Ends, ran] at ends

theorem failure {part : Service α} {failure : Failure} (ends : Ends answered failed part s)
    (ran : exec part s = (.error failure, s')) : failed failure := by
  rwa [Ends, ran] at ends

/-- What follows a part goes on from its answer, in the state that the part left behind. -/
theorem bind {part : Service α} {next : α → Service β} (first : Ends answered failed part s)
    (others : ∀ a s', exec part s = (.ok a, s') → answered a → Ends followed failed (next a) s') :
    Ends followed failed (part >>= next) s := by
  cases ran : exec part s with
  | mk outcome s' =>
      cases outcome with
      | ok a =>
          have later := others a s' ran (first.answer ran)
          rwa [Ends, exec_bind_ok ran]
      | error failure => exact of_error (exec_bind_error ran _) (first.failure ran)

/-- What follows a part that succeeded. -/
theorem ok_bind {part : Service α} {next : α → Service β} {a : α} (ran : exec part s = (.ok a, s'))
    (later : Ends followed failed (next a) s') : Ends followed failed (part >>= next) s := by
  rwa [Ends, exec_bind_ok ran]

theorem map {f : α → β} {part : Service α} (first : Ends (fun a => followed (f a)) failed part s) :
    Ends followed failed (f <$> part) s := by
  rw [← bind_pure_comp]
  exact first.bind fun a s' _ fine => pure fine

theorem mono {part : Service α} (ends : Ends answered failed part s) (more : ∀ a, answered a → answers a)
    (wider : ∀ failure, failed failure → fails failure) : Ends answers fails part s := by
  cases ran : exec part s with
  | mk outcome s' =>
      cases outcome with
      | ok a => exact of_ok ran (more a (ends.answer ran))
      | error failure => exact of_error ran (wider failure (ends.failure ran))

theorem ite {condition : Prop} [Decidable condition] {yes no : Service α}
    (first : condition → Ends answered failed yes s) (second : ¬ condition → Ends answered failed no s) :
    Ends answered failed (if condition then yes else no) s := by
  split
  · next holds => exact first holds
  · next fails => exact second fails

end Ends

/-- A part of a command that, where it fails in a state, tells the caller why. -/
abbrev Tells (part : Service α) (s : ServiceState) : Prop := Ends (fun _ => True) Failure.Told part s

namespace Ends

/-- What tells why it fails may stand among parts that fail in other ways, too. -/
theorem of_tells {part : Service α} (tells : Tells part s) : Ends (fun _ => True) (fun f => f.Told ∨ fails f) part s :=
  tells.mono (fun _ => id) fun _ => Or.inl

/-- A part that succeeds ends well. -/
theorem ok {part : Service α} {a : α} (ran : exec part s = (.ok a, s')) : Ends (fun _ => True) failed part s :=
  of_ok ran trivial

theorem refuse {refusal : Refusal} : Ends answered Failure.Told (refuse refusal : Service α) s :=
  throw (.refused refusal)

theorem note {level : Level} {source : Source} {message : String} {details : Fields} {exception : Bool} :
    Ends (fun _ => True) failed (note level source message details exception) s := ok rfl

end Ends

/-! ### Calls to the store -/

variable {collection : Collection} {query : Query} {test : Document → Bool}

theorem reach_tells : Tells reach s := by
  rcases Bool.eq_false_or_eq_true s.down with down | up
  · exact .of_error (exec_reach_down down) (.storage rfl)
  · exact .ok (exec_reach_up up)

theorem found_tells {outcome : Except FilterFault α} {a : α} (done : outcome = .ok a) : Tells (found outcome) s := by
  subst done
  exact .pure trivial

theorem findOne_tells (decides : query.Decides test) : Tells (findOne collection query) s :=
  reach_tells.bind fun _ _ _ _ => found_tells (Table.find?_eq decides _)

/-- What is selected stands in the table. -/
theorem select_ends (decides : query.Decides test) (keys : List SortKey) :
    Ends (fun documents => ∀ document ∈ documents, document ∈ s.store.table collection) Failure.Told
      (select collection query keys) s := by
  rcases Bool.eq_false_or_eq_true s.down with down | up
  · exact .of_error (exec_select_down down keys) (.storage rfl)
  · refine .of_ok (exec_select collection up (Table.select_eq decides _ keys)) fun document member => ?_
    exact (List.mem_filter.1 ((List.mergeSort_perm _ _).mem_iff.1 member)).1

theorem count_tells (decides : query.Decides test) : Tells (count collection query) s :=
  reach_tells.bind fun _ _ _ _ => (found_tells (Table.filter_eq decides _)).bind fun _ _ _ _ => .pure trivial

theorem remove_tells (decides : query.Decides test) : Tells (remove collection query) s := by
  refine reach_tells.bind fun store _ _ _ => ?_
  have made : (store.table collection).removeFirst? query = .ok ((List.find? test (store.table collection)).map fun _ =>
      (store.table collection).dropFirst query) := by
    rw [Table.removeFirst?, Table.find?_eq decides]
    rfl
  refine (found_tells made).bind fun left _ _ _ => ?_
  cases left with
  | none => exact .pure trivial
  | some table => exact .ok rfl

end Service

end Countersign
