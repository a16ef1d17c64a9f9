/-
Module: Countersign.Proofs.Commands.Asking
Purpose: Commands and parts of commands that only ask leave the whole store as it is.
Main exports: Logged, Asked, Service.Asks, Service.KeptByWriting, RuleStore.list_asks, Routing.evaluate_asks,
  Routing.prepare_asks, Approval.progress_asks
-/
import Countersign.Approval.Submission
import Countersign.Proofs.Service.Calls
import Countersign.Proofs.Service.Ids
import Countersign.Rule.Catalog
import Countersign.Ticket.Routing

namespace Countersign

open Service

/-!
What only asks leaves the whole store as it is, and does not decide whether the store can be reached; ids may be
taken, but are never given back, and entries may be written to the journal, under the correlation id of the request
that is answered. Such parts of commands may follow each other.
-/

/-- Entries may have been written to the journal, each under the correlation id that was set and still is. -/
structure Logged (s s' : ServiceState) : Prop where
  correlation : s'.correlation = s.correlation
  journal : ∃ entries, s'.journal = entries ++ s.journal ∧
    ∀ entry ∈ entries, entry.correlation = .ofText? s.correlation

namespace Logged

/-- Nothing was written. -/
theorem of_unwritten {s s' : ServiceState} (correlation : s'.correlation = s.correlation)
    (journal : s'.journal = s.journal) : Logged s s' :=
  ⟨correlation, [], journal, by simp⟩

theorem refl (s : ServiceState) : Logged s s := of_unwritten rfl rfl

theorem trans {a b c : ServiceState} (first : Logged a b) (second : Logged b c) : Logged a c := by
  obtain ⟨before, wrote, under⟩ := first.journal
  obtain ⟨later, wroteMore, underSame⟩ := second.journal
  refine ⟨second.correlation.trans first.correlation, later ++ before, ?_, ?_⟩
  · rw [wroteMore, wrote, List.append_assoc]
  · intro entry member
    rcases List.mem_append.1 member with new | old
    · rw [underSame entry new, first.correlation]
    · exact under entry old

/-- One entry was written. -/
theorem note (s : ServiceState) (level : Level) (source : Source) (message : String) (details : Fields)
    (exception : Bool) : Logged s (exec (Service.note level source message details exception) s).2 :=
  ⟨rfl, [_], rfl, by simp⟩

end Logged

/-- What may have changed when a command only asked. -/
structure Asked (s s' : ServiceState) : Prop where
  store : s'.store = s.store
  down : s'.down = s.down
  taken : ∀ kind, s.taken kind ≤ s'.taken kind
  logged : Logged s s'

namespace Asked

theorem refl (s : ServiceState) : Asked s s := ⟨rfl, rfl, fun _ => Nat.le_refl _, .refl s⟩

theorem trans {a b c : ServiceState} (first : Asked a b) (second : Asked b c) : Asked a c :=
  ⟨second.store.trans first.store, second.down.trans first.down,
    fun kind => Nat.le_trans (first.taken kind) (second.taken kind), first.logged.trans second.logged⟩

end Asked

namespace Service

variable {α β : Type}

/-- A part of a command that only asks. -/
def Asks (part : Service α) : Prop := Within Asked part

namespace Asks

theorem of_unmoved {part : Service α} (unmoved : ∀ s, (exec part s).2 = s) : Asks part :=
  Within.of_unmoved Asked.refl unmoved

theorem pure {a : α} : Asks (pure a : Service α) := Within.pure Asked.refl a

theorem throw {failure : Failure} : Asks (throw failure : Service α) := Within.throw Asked.refl failure

theorem refuse {refusal : Refusal} : Asks (refuse refusal : Service α) := throw

theorem bind {part : Service α} {next : α → Service β} (first : Asks part) (second : ∀ a, Asks (next a)) :
    Asks (part >>= next) :=
  Within.bind @Asked.trans first second

theorem map {f : α → β} {part : Service α} (first : Asks part) : Asks (f <$> part) := Within.map first

theorem ite {condition : Prop} [Decidable condition] {yes no : Service α} (first : Asks yes)
    (second : Asks no) : Asks (if condition then yes else no) := by
  split
  · exact first
  · exact second

theorem accept {checked : Checked α} : Asks (accept checked) := by
  cases checked
  · exact pure
  · exact throw

theorem found {outcome : Except FilterFault α} : Asks (found outcome) := by
  cases outcome
  · exact throw
  · exact pure

theorem get : Asks (get : Service ServiceState) := of_unmoved fun _ => rfl

theorem now : Asks now := of_unmoved fun _ => rfl

theorem attempt {part : Service α} (first : Asks part) : Asks (attempt part) := Within.attempt first

theorem modify {f : ServiceState → ServiceState} (asked : ∀ s, Asked s (f s)) : Asks (modify f) := asked

theorem note {level : Level} {source : Source} {message : String} {details : Fields}
    {exception : Bool} : Asks (note level source message details exception) :=
  fun s => ⟨rfl, rfl, fun _ => Nat.le_refl _, .note s level source message details exception⟩

theorem newId {kind : String} : Asks (newId kind) :=
  fun s => ⟨rfl, rfl, fun other => s.taken_le_afterNew kind other, .of_unwritten rfl rfl⟩

theorem reach : Asks reach := by
  apply of_unmoved
  intro s
  rcases Bool.eq_false_or_eq_true s.down with down | up
  · rw [exec_reach_down down]
  · rw [exec_reach_up up]

theorem findOne {collection : Collection} {query : Query} : Asks (findOne collection query) :=
  bind reach fun _ => found

theorem select {collection : Collection} {query : Query} {keys : List SortKey} :
    Asks (select collection query keys) :=
  bind reach fun _ => found

theorem count {collection : Collection} {query : Query} : Asks (count collection query) :=
  bind reach fun _ => bind found fun _ => pure

end Asks

/-- What holds after a part of a command only asked, and after a table was written, where it held before. -/
structure KeptByWriting (kept : ServiceState → Prop) (collection : Collection) : Prop where
  asks : ∀ {α : Type} {part : Service α}, Asks part → Keeps kept part
  write : ∀ {table : Table}, Keeps kept (write collection table)

namespace KeptByWriting

variable {kept : ServiceState → Prop} {collection : Collection}

theorem insert (writing : KeptByWriting kept collection) {document : Document} :
    Keeps kept (insert collection document) := by
  refine .bind (writing.asks .reach) fun store => .bind writing.write fun _ => ?_
  split
  · exact .pure
  · exact .pure
  · exact .throw

theorem change (writing : KeptByWriting kept collection) {query : Query} {alteration : Change} :
    Keeps kept (change collection query alteration) := by
  refine .bind (writing.asks .reach) fun store => .bind (writing.asks .found) fun outcome => ?_
  cases outcome with
  | changed before after table => exact .bind writing.write fun _ => .pure
  | unmet => exact .pure
  | refused fault table => exact .bind writing.write fun _ => .throw

theorem update (writing : KeptByWriting kept collection) {query : Query} {alteration : Change} :
    Keeps kept (update collection query alteration) := .bind writing.change fun _ => .pure

theorem remove (writing : KeptByWriting kept collection) {query : Query} : Keeps kept (remove collection query) := by
  refine .bind (writing.asks .reach) fun store => .bind (writing.asks .found) fun left => ?_
  cases left with
  | some table => exact .bind writing.write fun _ => .pure
  | none => exact .pure

end KeptByWriting

end Service

/-! ### The catalog of rules -/

namespace RuleStore

theorem read?_asks (document : Document) : Asks (read? document) := by
  unfold read?
  split
  · exact .pure
  · exact .bind .note fun _ => .pure

theorem find?_asks (id : Value) : Asks (find? id) := by
  apply Asks.bind .findOne
  intro found
  cases found with
  | some document => exact read?_asks document
  | none => exact .pure

theorem get_asks (id : Value) : Asks (get id) := by
  refine .bind (find?_asks id) fun found => ?_
  cases found
  · exact .refuse
  · exact .pure

theorem findByName?_asks (name : Value) : Asks (findByName? name) := by
  apply Asks.bind .findOne
  intro found
  cases found with
  | some document => exact read?_asks document
  | none => exact .pure

theorem readAll_asks (documents : List Document) : Asks (readAll documents) := by
  induction documents with
  | nil => exact .pure
  | cons document rest ih =>
      exact .bind (read?_asks document) fun _ => .bind ih fun _ => .pure

theorem list_asks (enabledOnly : Bool) : Asks (list enabledOnly) :=
  .bind .select fun documents => readAll_asks documents

theorem count_asks : Asks count := .count

end RuleStore

namespace RuleCatalog

theorem build_asks (draft : Fields) : Asks (build draft) := by
  unfold build
  split
  · exact .pure
  · exact .throw

theorem ensureNameFree_asks (name : String) (ownId : Option Value) :
    Asks (ensureNameFree name ownId) := by
  refine .bind (RuleStore.findByName?_asks _) fun found => ?_
  cases found
  · exact .pure
  · exact .ite .pure .refuse

theorem numbered_asks (time : Moment) (rules : List DefaultRule) : Asks (numbered time rules) := by
  induction rules with
  | nil => exact .pure
  | cons rule rest ih => exact .bind .newId fun _ => .bind ih fun _ => .pure

end RuleCatalog

/-! ### Tickets, requests and their trails -/

theorem TicketStore.get_asks (id : Value) : Asks (TicketStore.get id) := by
  apply Asks.bind .findOne
  intro found
  cases found
  · exact .refuse
  · exact .accept

namespace Routing

theorem noteComplaints_asks (facts : Fields) (conditions : List Condition) :
    Asks (noteComplaints facts conditions) := by
  induction conditions with
  | nil => exact .pure
  | cons condition rest ih =>
      rw [noteComplaints]
      cases condition.complaint? facts
      · exact ih
      · exact .bind .note fun _ => ih

theorem noteMatches_asks (facts : Fields) (rules : List Rule) : Asks (noteMatches facts rules) := by
  induction rules with
  | nil => exact .pure
  | cons rule rest ih =>
      exact .ite (.bind (noteComplaints_asks facts rule.conditions) fun _ =>
        .ite (.bind .note fun _ => ih) ih) ih

theorem resolve_asks (ticket : Ticket) : Asks (resolve ticket) :=
  .bind (.bind .note fun _ => .pure) fun facts => .bind (RuleStore.list_asks true) fun rules =>
    .bind (noteMatches_asks facts (Rule.ordered rules)) fun _ => .pure

theorem evaluate_asks (id : Value) : Asks (evaluate id) :=
  .bind (TicketStore.get_asks id) fun ticket => .bind (resolve_asks ticket) fun _ => .pure

theorem prepare_asks (id : Value) : Asks (prepare id) :=
  .bind (TicketStore.get_asks id) fun ticket =>
    .ite (.bind .refuse fun _ => .bind (resolve_asks ticket) fun _ => .pure)
      (.bind (resolve_asks ticket) fun _ => .pure)

end Routing

namespace RequestStore

theorem get_asks (id : Value) : Asks (get id) := by
  apply Asks.bind .findOne
  intro found
  cases found
  · exact .refuse
  · exact .accept

theorem readAll_asks (documents : List Document) : Asks (readAll documents) := by
  induction documents with
  | nil => exact .pure
  | cons document rest ih => exact .bind .accept fun _ => .bind ih fun _ => .pure

theorem list_asks (filter : RequestFilter) (skip size : Int) : Asks (list filter skip size) := by
  unfold list
  split
  · exact .throw
  · exact .bind .select fun documents => readAll_asks _

theorem countIn_asks (statuses : List ApprovalStatus) : Asks (countIn statuses) := by
  induction statuses with
  | nil => exact .pure
  | cons status rest ih => exact .bind .count fun _ => .bind ih fun _ => .pure

end RequestStore

namespace Trail

theorem readAll_asks (documents : List Document) : Asks (readAll documents) := by
  induction documents with
  | nil => exact .pure
  | cons document rest ih => exact .bind .accept fun _ => .bind ih fun _ => .pure

theorem listFor_asks (id : Value) : Asks (listFor id) :=
  .bind .select fun documents => readAll_asks documents

end Trail

namespace Approval

theorem settle_asks {α : Type} (outcome : Except Failure α) : Asks (settle outcome) := by
  cases outcome with
  | ok value => exact .pure
  | error failure => exact .throw

theorem progress_asks (id : Value) : Asks (progress id) :=
  .bind (RequestStore.get_asks id) fun _ => .bind (Trail.listFor_asks id) fun _ => .pure

theorem history_asks (id : Value) : Asks (history id) :=
  .bind (RequestStore.get_asks id) fun _ => Trail.listFor_asks id

theorem statistics_asks : Asks statistics :=
  .bind (RequestStore.countIn_asks _) fun _ => .pure

end Approval

end Countersign
