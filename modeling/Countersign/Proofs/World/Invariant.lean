/-
Module: Countersign.Proofs.World.Invariant
Purpose: What holds of every world, and what an event does to the ledger of a world.
Main exports: World.Holds, World.Changes, World.Holds.take, World.Changes.evolves,
  World.stores_iff_of_shownBy, World.history_eq_of_shownBy, World.Holds.history_eq_insertionSort,
  World.Runs.preserves, World.Runs.holds
-/
import Countersign.Proofs.Ledger.Reading
import Countersign.Proofs.Submission.Effects
import Countersign.Proofs.Submission.Steps
import Countersign.Proofs.World.Basic

namespace Countersign

open Service

/-!
The store of a world shows a ledger, and every submission knows of that ledger what belongs to its phase. An
event changes the ledger as a command or as a step of one submission does, so what is to be shown of all runs
is shown once for each way in which a ledger may change.
-/

/-- Where one entry of a list was replaced, an entry is the new one or stands elsewhere. -/
theorem getElem?_set_iff {α : Type} {entries : List α} {index other : Nat} {a b c : α}
    (here : entries[index]? = some a) :
    (entries.set index b)[other]? = some c ↔
      (other = index ∧ c = b) ∨ (other ≠ index ∧ entries[other]? = some c) := by
  have within : index < entries.length := (List.getElem?_eq_some_iff.1 here).1
  rw [List.getElem?_set]
  by_cases same : index = other
  · subst same
    simp [within, eq_comm]
  · simp [same, Ne.symm same]

/-- An entry behind a list to which one was added is the new one or was there before. -/
theorem getElem?_concat_iff {α : Type} {entries : List α} {index : Nat} {a b : α} :
    (entries ++ [a])[index]? = some b ↔
      entries[index]? = some b ∨ (index = entries.length ∧ b = a) := by
  rcases Nat.lt_trichotomy index entries.length with inside | last | beyond
  · simp [List.getElem?_append_left inside, Nat.ne_of_lt inside]
  · subst last
    simp [eq_comm]
  · have nothing : (entries ++ [a])[index]? = none := by
      rw [List.getElem?_eq_none_iff]
      simp
      omega
    simp [nothing, List.getElem?_eq_none (Nat.le_of_lt beyond), Nat.ne_of_gt beyond]

namespace World

/-- A world whose store shows a ledger, and whose submissions know what belongs to their phases. -/
structure Holds (w : World) (ledger : Ledger) : Prop where
  shown : ledger.ShownBy w.state.store
  linked : ledger.Linked (w.state.taken "ACT")
  knows : ∀ {index : Nat} {call : Call}, w.calls[index]? = some call →
    ∃ id, call.submission.On id ∧ call.phase.Knows ledger id call.submission.token
  numbered : ∀ {index : Nat} {call : Call}, w.calls[index]? = some call →
    ∃ number ≤ w.state.taken "LOCK", call.submission.token = idText "LOCK" number
  distinct : ∀ {first second : Nat} {one two : Call}, w.calls[first]? = some one →
    w.calls[second]? = some two → one.submission.token = two.submission.token → first = second

/-- What an event did to a world and to its ledger. -/
inductive Changes (w : World) (ledger : Ledger) : Event → World → Ledger → Prop where
  | commanded {step : Session.Step} {s : ServiceState} {after : Ledger}
      (commanded : ledger.Commanded after) (down : s.down = w.state.down)
      (few : w.state.taken "ACT" ≤ s.taken "ACT") :
      Changes w ledger (.command step) ⟨s, w.calls⟩ after
  | shifted {around s : ServiceState} (down : s.down = around.down)
      (same : s.taken "ACT" = w.state.taken "ACT") :
      Changes w ledger (.shift around) ⟨s, w.calls⟩ ledger
  | submitted {id : String} {role comment : Value} {decision : Decision} {terms : LeaseTerms}
      {s : ServiceState} {submission : Submission} (on : submission.On id)
      (made : submission = ⟨.text id, role, decision, comment, submission.token, terms⟩)
      (down : s.down = w.state.down) (same : s.taken "ACT" = w.state.taken "ACT") :
      Changes w ledger (.submit id role decision comment terms)
        ⟨s, w.calls ++ [⟨submission, .claiming 0⟩]⟩ ledger
  | advanced {s : ServiceState} {index : Nat} {call : Call} {id : String} {next : Phase}
      {after : Ledger} (here : w.calls[index]? = some call) (on : call.submission.On id)
      (knows : call.phase.Knows ledger id call.submission.token)
      (moves : call.phase.Moves call.submission id w.state.down ledger after next)
      (down : s.down = w.state.down)
      (counts : call.phase.Counts ledger after (w.state.taken "ACT") (s.taken "ACT") next) :
      Changes w ledger (.advance index) ⟨s, w.calls.set index { call with phase := next }⟩ after
  | cut {index : Nat} {call : Call} (here : w.calls[index]? = some call)
      (point : call.phase.point?.isSome = true) :
      Changes w ledger (.cut index)
        { w with calls := w.calls.set index { call with phase := call.phase.cutOff } } ledger

variable {environment : Session.Environment} {w w' : World} {ledger after : Ledger} {event : Event}

/-- Nothing holds of a world in which nothing has happened but that its store is empty. -/
theorem holds_start : start.Holds {} where
  shown := Ledger.shownBy_empty
  linked := .empty
  knows here := by cases here
  numbered here := by cases here
  distinct here := by cases here

/-! ### Every event goes by the ledger -/

namespace Holds

theorem sound (holds : w.Holds ledger) : ledger.Sound := holds.shown.sound

/-- Where no submission goes on, submissions keep what they know. -/
theorem around {s : ServiceState} (holds : w.Holds ledger) (shows : after.ShownBy s.store)
    (linked : after.Linked (s.taken "ACT")) (evolves : ledger.Evolves after)
    (spares : ∀ token, Ledger.Spares token ledger after)
    (taken : w.state.taken "LOCK" ≤ s.taken "LOCK") : Holds ⟨s, w.calls⟩ after where
  shown := shows
  linked := linked
  knows here := by
    obtain ⟨id, on, knows⟩ := holds.knows here
    exact ⟨id, on, knows.stable evolves (spares _)⟩
  numbered here := by
    obtain ⟨number, few, token⟩ := holds.numbered here
    exact ⟨number, Nat.le_trans few taken, token⟩
  distinct := holds.distinct

/-- Where one submission goes on, the others keep what they know. -/
theorem replaced {s : ServiceState} {index : Nat} {call : Call} {next : Phase} {id : String}
    (holds : w.Holds ledger) (here : w.calls[index]? = some call) (on : call.submission.On id)
    (shows : after.ShownBy s.store) (linked : after.Linked (s.taken "ACT")) (evolves : ledger.Evolves after)
    (spares : ∀ token, token ≠ call.submission.token → Ledger.Spares token ledger after)
    (knows : next.Knows after id call.submission.token)
    (taken : w.state.taken "LOCK" ≤ s.taken "LOCK") :
    Holds ⟨s, w.calls.set index { call with phase := next }⟩ after where
  shown := shows
  linked := linked
  knows there := by
    rcases (getElem?_set_iff here).1 there with ⟨rfl, rfl⟩ | ⟨other, there⟩
    · exact ⟨id, on, knows⟩
    · obtain ⟨otherId, otherOn, known⟩ := holds.knows there
      refine ⟨otherId, otherOn, known.stable evolves (spares _ fun same => other ?_)⟩
      exact holds.distinct there here same
  numbered there := by
    rcases (getElem?_set_iff here).1 there with ⟨rfl, rfl⟩ | ⟨-, there⟩
    · obtain ⟨number, few, token⟩ := holds.numbered here
      exact ⟨number, Nat.le_trans few taken, token⟩
    · obtain ⟨number, few, token⟩ := holds.numbered there
      exact ⟨number, Nat.le_trans few taken, token⟩
  distinct one two same := by
    rcases (getElem?_set_iff here).1 one with ⟨rfl, rfl⟩ | ⟨-, early⟩ <;>
      rcases (getElem?_set_iff here).1 two with ⟨rfl, rfl⟩ | ⟨-, late⟩
    · rfl
    · exact holds.distinct here late same
    · exact holds.distinct early here same
    · exact holds.distinct early late same

/-- A new submission has a token that no other has. -/
theorem submitted {submission : Submission} {id : String} (holds : w.Holds ledger)
    (on : submission.On id) (token : submission.token = idText "LOCK" (w.state.taken "LOCK" + 1)) :
    Holds ⟨w.state.afterNew "LOCK", w.calls ++ [⟨submission, .claiming 0⟩]⟩ ledger where
  shown := holds.shown
  linked := by
    rw [ServiceState.taken_afterNew, if_neg (by decide)]
    exact holds.linked
  knows there := by
    rcases getElem?_concat_iff.1 there with old | ⟨-, rfl⟩
    · exact holds.knows old
    · exact ⟨id, on, trivial⟩
  numbered there := by
    rcases getElem?_concat_iff.1 there with old | ⟨-, rfl⟩
    · obtain ⟨number, few, known⟩ := holds.numbered old
      exact ⟨number, Nat.le_trans few (w.state.taken_le_afterNew _ _), known⟩
    · refine ⟨_, Nat.le_of_eq ?_, token⟩
      rw [ServiceState.taken_afterNew, if_pos rfl]
  distinct one two same := by
    have fresh {index : Nat} {call : Call} (old : w.calls[index]? = some call) :
        call.submission.token ≠ submission.token := by
      obtain ⟨number, few, known⟩ := holds.numbered old
      rw [known, token]
      intro equal
      have := idText_injective "LOCK" equal
      omega
    rcases getElem?_concat_iff.1 one with early | ⟨rfl, rfl⟩ <;>
      rcases getElem?_concat_iff.1 two with late | ⟨rfl, rfl⟩
    · exact holds.distinct early late same
    · exact absurd same (fresh early)
    · exact absurd same.symm (fresh late)
    · rfl

/-- Every event changes the ledger in one of the ways in which ledgers change. -/
theorem take (holds : w.Holds ledger) (taken : w.take environment event = some w') :
    ∃ after, w'.Holds after ∧ w.Changes ledger event w' after := by
  cases becomes_of_take taken with
  | command command =>
      obtain ⟨⟨after, shows, commanded⟩, down, few⟩ :=
        Session.Step.commands command environment w.state ledger holds.shown
      exact ⟨after, holds.around shows (holds.linked.commanded (few _) commanded) commanded.evolves
        commanded.spares (few _),
        .commanded commanded down (few _)⟩
  | shift around =>
      exact ⟨ledger, holds.around holds.shown holds.linked (.refl _) (fun _ => .refl _ _) (Nat.le_refl _),
        .shifted rfl rfl⟩
  | @submit requestId role decision comment terms =>
      have on : Submission.On ⟨.text requestId, role, decision, comment,
          idText "LOCK" (w.state.taken "LOCK" + 1), terms⟩ requestId := .of_token rfl rfl
      have same : (w.state.afterNew "LOCK").taken "ACT" = w.state.taken "ACT" := by
        rw [ServiceState.taken_afterNew, if_neg (by decide)]
      exact ⟨ledger, holds.submitted on rfl, .submitted on rfl rfl same⟩
  | advance here ran =>
      obtain ⟨id, on, knows⟩ := holds.knows here
      obtain ⟨next, s, after, went⟩ := Phase.step_goes on holds.shown holds.linked knows
      cases ran.symm.trans went.ran
      have submitted := went.moves.submitted knows
      refine ⟨after, ?_, .advanced here on knows went.moves went.down went.counts⟩
      exact holds.replaced here on went.shows
        (went.moves.linked holds.sound knows went.counts holds.linked) (submitted.evolves holds.sound)
        (fun token different => submitted.spares holds.sound different)
        (went.moves.knows holds.sound knows) (went.taken _)
  | cut here point =>
      obtain ⟨id, on, knows⟩ := holds.knows here
      exact ⟨ledger, holds.replaced here on holds.shown holds.linked (.refl _) (fun _ _ => .refl _ _)
        knows.cutOff (Nat.le_refl _), .cut here point⟩

end Holds

/-- No event takes anything out of the ledger. -/
theorem Changes.evolves (changes : w.Changes ledger event w' after)
    (sound : ledger.Sound) : ledger.Evolves after := by
  cases changes with
  | commanded commanded down => exact commanded.evolves
  | shifted down same => exact .refl _
  | submitted on made down same => exact .refl _
  | advanced here on knows moves down => exact (moves.submitted knows).evolves sound
  | cut here point => exact .refl _

/-- No number of an action is given back, and only the next one is taken by an action that is recorded. -/
theorem Changes.numbered (changes : w.Changes ledger event w' after) :
    w.state.taken "ACT" ≤ w'.state.taken "ACT" ∧ ∀ action ∈ after.actions, action ∈ ledger.actions ∨
      action.id = idText "ACT" (w.state.taken "ACT" + 1) := by
  cases changes with
  | commanded commanded down few =>
      rw [commanded.actions_eq]
      exact ⟨few, fun _ member => Or.inl member⟩
  | shifted down same => exact ⟨Nat.le_of_eq same.symm, fun _ member => Or.inl member⟩
  | submitted on made down same => exact ⟨Nat.le_of_eq same.symm, fun _ member => Or.inl member⟩
  | cut here point => exact ⟨Nat.le_refl _, fun _ member => Or.inl member⟩
  | @advanced s index call id next after here on knows moves down counts =>
      generalize call.phase = phase at counts
      cases counts with
      | still same actions => exact ⟨Nat.le_of_eq same.symm, fun _ member => Or.inl (actions ▸ member)⟩
      | missed one actions other =>
          exact ⟨(Nat.le_succ _).trans (Nat.le_of_eq one.symm), fun _ member => Or.inl (actions ▸ member)⟩
      | recorded one number actions =>
          subst actions
          refine ⟨(Nat.le_succ _).trans (Nat.le_of_eq one.symm), fun action member => ?_⟩
          rcases List.mem_append.1 member with old | new
          · exact Or.inl old
          · obtain rfl := List.mem_singleton.1 new
            exact Or.inr number

/-- What an event does to one submission: nothing, or the submission goes on, or it is cut off at a point. -/
theorem Changes.call_cases (changes : w.Changes ledger event w' after) {index : Nat} {call : Call}
    (here : w.calls[index]? = some call) :
    w'.calls[index]? = some call ∨
    (∃ id next, call.submission.On id ∧ call.phase.Knows ledger id call.submission.token ∧
      call.phase.Moves call.submission id w.state.down ledger after next ∧
      w'.calls[index]? = some { call with phase := next }) ∨
    (call.phase.point?.isSome = true ∧ after = ledger ∧
      w'.calls[index]? = some { call with phase := call.phase.cutOff }) := by
  cases changes with
  | commanded commanded down few => exact Or.inl here
  | shifted down same => exact Or.inl here
  | submitted on made down same => exact Or.inl (getElem?_concat_iff.2 (Or.inl here))
  | @advanced s mover other id next after there on knows moves down counts =>
      by_cases same : index = mover
      · subst same
        obtain rfl := Option.some.inj (here.symm.trans there)
        exact Or.inr (Or.inl ⟨id, next, on, knows, moves, (getElem?_set_iff there).2 (Or.inl ⟨rfl, rfl⟩)⟩)
      · exact Or.inl ((getElem?_set_iff there).2 (Or.inr ⟨same, here⟩))
  | @cut mover other there point =>
      by_cases same : index = mover
      · subst same
        obtain rfl := Option.some.inj (here.symm.trans there)
        exact Or.inr (Or.inr ⟨point, rfl, (getElem?_set_iff there).2 (Or.inl ⟨rfl, rfl⟩)⟩)
      · exact Or.inl ((getElem?_set_iff there).2 (Or.inr ⟨same, here⟩))

/-! ### What is seen of a world -/

/-- The requests that the store keeps are those of the ledger that it shows. -/
theorem stores_iff_of_shownBy (shown : ledger.ShownBy w.state.store) {request : Request} :
    w.Stores request ↔ ∃ holding ∈ ledger.requests, holding.request = request := by
  constructor
  · rintro ⟨document, member, reads⟩
    obtain ⟨holding, within, here⟩ := exists_of_mem_documents shown.requests member
    rw [here.reads] at reads
    exact ⟨holding, within, Checked.accepted.inj reads⟩
  · rintro ⟨holding, within, rfl⟩
    obtain ⟨located⟩ := shown.located within
    refine ⟨located.document, ?_, located.shown.reads⟩
    rw [located.documents]
    simp

/-- And what is read of a request is its history in that ledger. -/
theorem history_eq_of_shownBy (shown : ledger.ShownBy w.state.store) (id : String) :
    w.history id = ledger.history id := by
  rw [World.history, Trail.exec_listFor (s := w.reachable) rfl shown id]

namespace Holds

theorem stores_iff (holds : w.Holds ledger) {request : Request} :
    w.Stores request ↔ ∃ holding ∈ ledger.requests, holding.request = request := stores_iff_of_shownBy holds.shown

/-- Every document of a request is read as one of the ledger. -/
theorem reads (holds : w.Holds ledger) {document : Document}
    (member : document ∈ w.state.store.requests) :
    ∃ holding ∈ ledger.requests, Request.check document = .accepted holding.request := by
  obtain ⟨holding, within, here⟩ := exists_of_mem_documents holds.shown.requests member
  exact ⟨holding, within, here.reads⟩

theorem exec_listFor (holds : w.Holds ledger) (id : String) :
    exec (Trail.listFor (.text id)) w.reachable = (.ok (ledger.history id), w.reachable) :=
  Trail.exec_listFor (s := w.reachable) rfl holds.shown id

theorem history_eq (holds : w.Holds ledger) (id : String) : w.history id = ledger.history id :=
  history_eq_of_shownBy holds.shown id

theorem trail_eq (holds : w.Holds ledger) (id : String) : w.trail id = ledger.trailOf id := by
  have related := holds.shown.actions
  rw [World.trail, Ledger.trailOf]
  generalize ledger.actions = entries, w.state.store.actions = documents at related ⊢
  induction related with
  | nil => rfl
  | @cons action document _ _ here _ ih =>
      by_cases about : action.requestId = id <;> simp [here.reads, about, ih]

/-- The trail is read in the order of places and times, and otherwise as it was recorded. -/
theorem history_eq_insertionSort (holds : w.Holds ledger) (id : String) :
    w.history id = (w.trail id).insertionSort fun first second => first.noLaterThan second = true := by
  rw [holds.history_eq, holds.trail_eq, ledger.history_eq_insertionSort]

/-- A request of the ledger is got when the store can be reached. -/
theorem exec_get (holds : w.Holds ledger) {holding : Holding} (member : holding ∈ ledger.requests) :
    exec (RequestStore.get (.text holding.request.id)) w.reachable =
      (.ok holding.request, w.reachable) :=
  RequestStore.exec_get_known (s := w.reachable) rfl holds.shown member

end Holds

/-! ### Runs -/

namespace Runs

variable {order : Order}

/-- What every change of a ledger keeps is kept by runs. -/
theorem preserves {P : World → Ledger → Prop}
    (kept : ∀ {w ledger event w' after}, w.Holds ledger → P w ledger → order w event = true →
      w.take environment event = some w' → w.Changes ledger event w' after → w'.Holds after →
      P w' after)
    (runs : Runs environment order w w') (holds : w.Holds ledger) (before : P w ledger) :
    ∃ after, w'.Holds after ∧ ledger.Evolves after ∧ P w' after := by
  induction runs with
  | stay => exact ⟨ledger, holds, .refl _, before⟩
  | next earlier event allowed taken ih =>
      obtain ⟨middle, there, evolved, known⟩ := ih
      obtain ⟨after, later, changes⟩ := there.take taken
      exact ⟨after, later, evolved.trans (changes.evolves there.sound),
        kept there known allowed taken changes later⟩

/-- Every world that is reached shows a ledger in which nothing was lost. -/
theorem holds (runs : Runs environment order w w') (holds : w.Holds ledger) :
    ∃ after, w'.Holds after ∧ ledger.Evolves after := by
  obtain ⟨after, there, evolves, -⟩ :=
    runs.preserves (P := fun _ _ => True) (fun _ _ _ _ _ _ => trivial) holds trivial
  exact ⟨after, there, evolves⟩

end Runs

end World

end Countersign
