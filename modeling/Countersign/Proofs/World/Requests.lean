/-
Module: Countersign.Proofs.World.Requests
Purpose: What events mean for one request and for the submissions on it.
Main exports: Call.isOn, World.callsOn, World.Quiet, World.Touches, World.Changes.touches, World.Changes.quiet,
  World.Holds.tokens_nodup
-/
import Countersign.Proofs.Ledger.InStep
import Countersign.Proofs.World.Invariant

namespace Countersign

open Service

/-!
Most events do not concern a request: they are commands, or steps of submissions on other requests. What is to be
shown of one request is shown for the events that do concern it, which are those of the submissions on it. Those
that came to their end before some point of a run do nothing any more, so only the later ones count.
-/

/-- Where one entry of a list is replaced, the entries behind some place that pass a test stay the same, or the one
is replaced among them. -/
theorem filter_drop_set {α : Type} {p : α → Bool} {entries : List α} {index : Nat} (since : Nat) {a b : α}
    (here : entries[index]? = some a) (same : p b = p a) :
    ((p a = true → index < since) ∧ ((entries.set index b).drop since).filter p = (entries.drop since).filter p) ∨
    (p a = true ∧ ∃ front back, (entries.drop since).filter p = front ++ a :: back ∧
      ((entries.set index b).drop since).filter p = front ++ b :: back) := by
  rw [List.drop_set]
  by_cases early : index < since
  · rw [if_pos early]
    exact Or.inl ⟨fun _ => early, rfl⟩
  · rw [if_neg early]
    have there : (entries.drop since)[index - since]? = some a := by
      rw [List.getElem?_drop, ← here]
      congr 1
      omega
    -- Cut where the entry is: in front and behind nothing changes.
    generalize entries.drop since = rest, index - since = place at there
    obtain ⟨within, found⟩ := List.getElem?_eq_some_iff.1 there
    have split (c : α) : rest.set place c = rest.take place ++ c :: rest.drop (place + 1) := by
      rw [List.set_eq_take_append_cons_drop, if_pos within]
    have whole : rest = rest.take place ++ a :: rest.drop (place + 1) := by
      rw [← split, ← found, List.set_getElem_self]
    cases passes : p a with
    | false =>
        refine Or.inl ⟨fun yes => (by cases yes), ?_⟩
        rw [split]
        conv_rhs => rw [whole]
        simp [passes, same]
    | true =>
        refine Or.inr ⟨rfl, (rest.take place).filter p, (rest.drop (place + 1)).filter p, ?_, ?_⟩
        · conv_lhs => rw [whole]
          simp [passes]
        · rw [split]
          simp [passes, same]

namespace Call

/-- Whether a submission is one on the request of an id. -/
def isOn (id : String) (call : Call) : Bool := call.submission.requestId.text? == some id

variable {call : Call} {id : String}

theorem isOn_iff {other : String} (on : call.submission.On other) : call.isOn id = true ↔ other = id := by
  simp [isOn, on.requestId, Value.text?]

end Call

namespace World

/-- The submissions on the request of an id, but for those among so many that were made first. -/
def callsOn (w : World) (id : String) (since : Nat) : List Call := (w.calls.drop since).filter (Call.isOn id)

/-- Whether an event is a step of a submission on the request of an id. -/
def movesOn (w : World) (id : String) (event : Event) : Bool :=
  (event.mover?.bind fun index => w.calls[index]?).any (Call.isOn id)

/-- So many submissions were made, and those among them on the request of an id have come to their end. -/
structure Quiet (w : World) (id : String) (since : Nat) : Prop where
  within : since ≤ w.calls.length
  ended : ∀ {index : Nat} {call : Call}, w.calls[index]? = some call → index < since → call.isOn id = true →
    call.isDone = true

/-- What an event means for the request of an id and for the submissions on it. -/
inductive Touches (w w' : World) (ledger after : Ledger) (id : String) (since : Nat) : Event → Prop where
  | aside {event : Event} (same : w'.callsOn id since = w.callsOn id since) (keeps : Ledger.Keeps id ledger after)
      (still : w.movesOn id event = true → after = ledger) : Touches w w' ledger after id since event
  | submitted {role comment : Value} {decision : Decision} {terms : LeaseTerms} {submission : Submission}
      (made : submission = ⟨.text id, role, decision, comment, submission.token, terms⟩)
      (later : w'.callsOn id since = w.callsOn id since ++ [⟨submission, .claiming 0⟩]) (same : after = ledger) :
      Touches w w' ledger after id since (.submit id role decision comment terms)
  | advanced {index : Nat} {call : Call} {next : Phase} {front back : List Call}
      (before : w.callsOn id since = front ++ call :: back)
      (later : w'.callsOn id since = front ++ { call with phase := next } :: back)
      (on : call.submission.On id) (knows : call.phase.Knows ledger id call.submission.token)
      (moves : call.phase.Moves call.submission id w.state.down ledger after next) :
      Touches w w' ledger after id since (.advance index)
  | cut {index : Nat} {call : Call} {front back : List Call} (here : w.calls[index]? = some call)
      (before : w.callsOn id since = front ++ call :: back)
      (later : w'.callsOn id since = front ++ { call with phase := call.phase.cutOff } :: back)
      (on : call.submission.On id) (same : after = ledger) :
      Touches w w' ledger after id since (.cut index)

variable {w w' : World} {ledger after : Ledger} {event : Event} {id : String} {since : Nat}

theorem mem_calls_of_mem_callsOn {call : Call} (member : call ∈ w.callsOn id since) :
    ∃ index : Nat, w.calls[index]? = some call :=
  List.mem_iff_getElem?.1 (List.mem_of_mem_drop (List.mem_filter.1 member).1)

/-- A submission that has come to its end does nothing any more. -/
theorem still_of_isDone {call : Call} {down : Bool} {next : Phase} (ended : call.isDone = true)
    (moves : call.phase.Moves call.submission id down ledger after next) : after = ledger ∧ next = call.phase := by
  obtain ⟨submission, phase⟩ := call
  cases phase with
  | done outcome =>
      cases moves with
      | failed failure fails => cases fails.canFail
      | ended => exact ⟨rfl, rfl⟩
  | _ => cases ended

namespace Changes

/-- Every event concerns a request in one of the ways in which events do. -/
theorem touches (changes : w.Changes ledger event w' after) (holds : w.Holds ledger) (quiet : w.Quiet id since) :
    w.Touches w' ledger after id since event := by
  cases changes with
  | commanded commanded down few => exact .aside rfl (commanded.keeps id) fun moves => by cases moves
  | shifted down same => exact .aside rfl (.refl _ _) fun _ => rfl
  | @submitted other role comment decision terms s submission on made down same =>
      have joined : callsOn ⟨s, w.calls ++ [⟨submission, .claiming 0⟩]⟩ id since =
          w.callsOn id since ++ [⟨submission, .claiming 0⟩].filter (Call.isOn id) := by
        rw [callsOn, callsOn, List.drop_append_of_le_length quiet.within, List.filter_append]
      by_cases about : other = id
      · subst about
        have within : Call.isOn other ⟨submission, .claiming 0⟩ = true := (Call.isOn_iff on).2 rfl
        rw [List.filter_cons_of_pos within, List.filter_nil] at joined
        exact .submitted made joined rfl
      · have without : ¬ Call.isOn id ⟨submission, .claiming 0⟩ = true := fun yes =>
          about ((Call.isOn_iff on).1 yes)
        rw [List.filter_cons_of_neg without, List.filter_nil, List.append_nil] at joined
        exact .aside joined (.refl _ _) fun _ => rfl
  | @advanced s index call other next after here on knows moves down counts =>
      rcases filter_drop_set since here (p := Call.isOn id) (b := { call with phase := next }) rfl with
        ⟨early, unchanged⟩ | ⟨about, front, back, before, later⟩
      · have still (about : call.isOn id = true) : after = ledger :=
          (still_of_isDone (quiet.ended here (early about) about) moves).1
        refine .aside unchanged ?_ fun moves => still (by simpa [movesOn, Event.mover?, here] using moves)
        by_cases about : call.isOn id = true
        · rw [still about]
          exact .refl _ _
        · exact (moves.submitted knows).keeps fun same => about ((Call.isOn_iff on).2 same)
      · obtain rfl := (Call.isOn_iff on).1 about
        exact .advanced before later on knows moves
  | @cut index call here point =>
      obtain ⟨other, on, -⟩ := holds.knows here
      rcases filter_drop_set since here (p := Call.isOn id) (b := { call with phase := call.phase.cutOff }) rfl with
        ⟨early, unchanged⟩ | ⟨about, front, back, before, later⟩
      · exact .aside unchanged (.refl _ _) fun _ => rfl
      · obtain rfl := (Call.isOn_iff on).1 about
        exact .cut here before later on rfl

/-- Submissions that have come to their end stay there. -/
theorem quiet (changes : w.Changes ledger event w' after) (quiet : w.Quiet id since) : w'.Quiet id since := by
  have replaced {index : Nat} {call : Call} {next : Phase} (here : w.calls[index]? = some call)
      (stays : call.isDone = true → Call.isDone { call with phase := next } = true) (s : ServiceState) :
      Quiet ⟨s, w.calls.set index { call with phase := next }⟩ id since := by
    refine ⟨by simpa using quiet.within, fun there early about => ?_⟩
    rcases (getElem?_set_iff here).1 there with ⟨rfl, rfl⟩ | ⟨-, known⟩
    · exact stays (quiet.ended here early about)
    · exact quiet.ended known early about
  cases changes with
  | commanded commanded down few => exact ⟨quiet.within, quiet.ended⟩
  | shifted down same => exact ⟨quiet.within, quiet.ended⟩
  | submitted on made down same =>
      refine ⟨?_, fun there early about => ?_⟩
      · rw [List.length_append]
        exact Nat.le_add_right_of_le quiet.within
      · rcases getElem?_concat_iff.1 there with known | ⟨last, -⟩
        · exact quiet.ended known early about
        · have := quiet.within
          omega
  | @advanced s index call other next after here on knows moves down counts =>
      refine replaced here (fun ended => ?_) s
      rw [(still_of_isDone ended moves).2]
      exact ended
  | @cut index call here point =>
      refine replaced here (fun ended => ?_) w.state
      obtain ⟨submission, phase⟩ := call
      cases phase <;> first | rfl | cases ended

end Changes

/-- No event takes a ticket out. -/
theorem Changes.tickets (changes : w.Changes ledger event w' after) :
    ledger.tickets.map (·.id) ⊆ after.tickets.map (·.id) := by
  cases changes with
  | commanded commanded down few => exact commanded.tickets
  | shifted down same => exact fun _ within => within
  | submitted on made down same => exact fun _ within => within
  | advanced here on knows moves down counts => exact (moves.submitted knows).tickets
  | cut here point => exact fun _ within => within

/-- Where no action waits for its commit, the history of a request has the committed actions, each in its place. -/
theorem Holds.history_of_inStep {holding : Holding} {trail : List Action} (holds : w.Holds ledger)
    (inStep : ledger.InStep holding trail none) :
    w.history holding.request.id = trail ∧ Action.Numbered trail := by
  have numbered := inStep.numbered
  rw [Option.toList_none, List.append_nil] at numbered
  refine ⟨?_, numbered⟩
  rw [holds.history_eq, inStep.history_eq, Option.toList_none, List.append_nil]

/-- No two submissions on a request have the same token. -/
theorem Holds.tokens_nodup (holds : w.Holds ledger) (id : String) (since : Nat) :
    ((w.callsOn id since).map (·.submission.token)).Nodup := by
  have all : (w.calls.map (·.submission.token)).Nodup := by
    rw [List.nodup_iff_injective_get]
    intro first second same
    have here (place : Fin (w.calls.map (·.submission.token)).length) :
        ∃ call, w.calls[place.1]? = some call ∧
          call.submission.token = (w.calls.map (·.submission.token)).get place := by
      have within : place.1 < w.calls.length := by simpa using place.2
      exact ⟨w.calls[place.1], List.getElem?_eq_getElem within, by simp⟩
    obtain ⟨one, atFirst, tokenOne⟩ := here first
    obtain ⟨two, atSecond, tokenTwo⟩ := here second
    exact Fin.ext (holds.distinct atFirst atSecond (tokenOne.trans (same.trans tokenTwo.symm)))
  exact all.sublist (((List.filter_sublist).trans (List.drop_sublist _ _)).map _)

end World

end Countersign
