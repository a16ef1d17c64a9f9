/-
Module: Countersign.Proofs.Ledger.Reading
Purpose: How the order in which the trail is read goes on when actions are recorded.
Main exports: mergeSort_prefix, mergeSort_append, mergeSort_concat, mergeSort_eq_insertionSort, sublist_split,
  Ledger.history_sublist, Ledger.history_isPrefix_iff, Ledger.history_append_last
-/
import Countersign.Proofs.Ledger.Trail
import Mathlib.Data.List.Sort

namespace Countersign

/-!
Actions are read in the order of their places, of their times, and then of their recording. So an action that is
recorded later may be read in front of earlier ones, but it never changes the order in which those are read.
-/

section MergeSort

variable {α : Type} {le : α → α → Bool} {l l' : List α} {a : α}

/-- The first entry of a list is sorted in between those that have to stand in front of it and all others. -/
theorem mergeSort_cons_eq (trans : ∀ a b c, le a b = true → le b c = true → le a c = true)
    (total : ∀ a b, (le a b || le b a) = true) (a : α) (l : List α) :
    (a :: l).mergeSort le =
      (l.mergeSort le).filter (fun b => !le a b) ++ a :: (l.mergeSort le).filter (le a) := by
  obtain ⟨front, back, sorted, others, inFront⟩ := List.mergeSort_cons trans total a l
  have pairwise := List.pairwise_mergeSort trans total (a :: l)
  rw [sorted] at pairwise
  have inBack : ∀ b ∈ back, le a b = true :=
    (List.pairwise_cons.1 (List.pairwise_append.1 pairwise).2.1).1
  have noneBack : back.filter (fun b => !le a b) = [] :=
    List.filter_eq_nil_iff.2 fun b within => by simp [inBack b within]
  have noneFront : front.filter (le a) = [] :=
    List.filter_eq_nil_iff.2 fun b within => by simpa using inFront b within
  rw [sorted, others, List.filter_append, List.filter_append, noneBack, noneFront,
    List.filter_eq_self.2 inFront, List.filter_eq_self.2 inBack, List.append_nil, List.nil_append]

/-- What is put behind a list does not change the order of what was in it. -/
theorem mergeSort_prefix (trans : ∀ a b c, le a b = true → le b c = true → le a c = true)
    (total : ∀ a b, (le a b || le b a) = true) :
    (l.mergeSort le).Sublist ((l ++ l').mergeSort le) := by
  induction l with
  | nil => simp
  | cons a rest ih =>
      rw [List.cons_append, mergeSort_cons_eq trans total, mergeSort_cons_eq trans total]
      exact (ih.filter _).append (.cons_cons a (ih.filter _))

/-- Entries that may stand behind all entries of a list are sorted behind it when they are put there. -/
theorem mergeSort_append (trans : ∀ a b c, le a b = true → le b c = true → le a c = true)
    (total : ∀ a b, (le a b || le b a) = true) (behind : ∀ b ∈ l, ∀ a ∈ l', le b a = true) :
    (l ++ l').mergeSort le = l.mergeSort le ++ l'.mergeSort le := by
  induction l with
  | nil => simp
  | cons b rest ih =>
      have later : ∀ a ∈ l'.mergeSort le, le b a = true :=
        fun a within => behind b (by simp) a (List.mem_mergeSort.1 within)
      have none : (l'.mergeSort le).filter (fun a => !le b a) = [] :=
        List.filter_eq_nil_iff.2 fun a within => by simp [later a within]
      rw [List.cons_append, mergeSort_cons_eq trans total,
        ih fun other within => behind other (List.mem_cons_of_mem _ within), mergeSort_cons_eq trans total,
        List.filter_append, List.filter_append, none, List.filter_eq_self.2 later, List.append_nil, List.append_assoc,
        List.cons_append]

/-- What no entry has to stand behind is sorted last when it is put last. -/
theorem mergeSort_concat (trans : ∀ a b c, le a b = true → le b c = true → le a c = true)
    (total : ∀ a b, (le a b || le b a) = true) (last : ∀ b ∈ l, le b a = true) :
    (l ++ [a]).mergeSort le = l.mergeSort le ++ [a] := by
  rw [mergeSort_append trans total fun b within => List.forall_mem_singleton.2 (last b within),
    List.mergeSort_singleton]

/-- In a sorted list an entry is inserted between those that have to stand in front of it and all others. -/
theorem orderedInsert_eq_filter (pairwise : l.Pairwise fun a b => le a b = true)
    (trans : ∀ a b c, le a b = true → le b c = true → le a c = true) (a : α) :
    l.orderedInsert (fun a b => le a b = true) a = l.filter (fun b => !le a b) ++ a :: l.filter (le a) := by
  induction l with
  | nil => rfl
  | cons b rest ih =>
      obtain ⟨behind, others⟩ := List.pairwise_cons.1 pairwise
      by_cases before : le a b = true
      · have all : ∀ c ∈ b :: rest, le a c = true := by
          intro c within
          rcases List.mem_cons.mp within with rfl | later
          · exact before
          · exact trans a b c before (behind c later)
        have none : (b :: rest).filter (fun c => !le a c) = [] :=
          List.filter_eq_nil_iff.2 fun c within => by simp [all c within]
        rw [List.orderedInsert_cons, if_pos before, none, List.filter_eq_self.2 all]
        rfl
      · simp [before, ih others]

/-- Sorting by insertion gives the same list, ties included. -/
theorem mergeSort_eq_insertionSort (trans : ∀ a b c, le a b = true → le b c = true → le a c = true)
    (total : ∀ a b, (le a b || le b a) = true) (l : List α) :
    l.mergeSort le = l.insertionSort fun a b => le a b = true := by
  induction l with
  | nil => simp
  | cons a rest ih =>
      rw [mergeSort_cons_eq trans total, List.insertionSort_cons, ← ih,
        orderedInsert_eq_filter (List.pairwise_mergeSort trans total rest) trans]

end MergeSort

/-- What a list without repetitions has on both sides of an entry is there in every list that it is part of. -/
theorem sublist_split {α : Type} {front back early late : List α} {a : α}
    (nodup : (front ++ a :: back).Nodup)
    (part : (early ++ a :: late).Sublist (front ++ a :: back)) :
    early.Sublist front ∧ late.Sublist back := by
  induction front generalizing early with
  | nil =>
      rw [List.nil_append] at nodup part
      have missing : a ∉ back := (List.nodup_cons.1 nodup).1
      cases early with
      | nil => exact ⟨.slnil, List.cons_sublist_cons.1 part⟩
      | cons b rest =>
          have inside : a ∈ back := by
            rcases List.sublist_cons_iff.1 part with whole | ⟨tail, same, rest⟩
            · exact whole.subset (by simp)
            · obtain ⟨-, rfl⟩ := List.cons.inj same
              exact rest.subset (by simp)
          exact absurd inside missing
  | cons b rest ih =>
      rw [List.cons_append] at nodup part
      obtain ⟨alone, others⟩ := List.nodup_cons.1 nodup
      rcases List.sublist_cons_iff.1 part with whole | ⟨tail, same, behind⟩
      · obtain ⟨inFront, inBack⟩ := ih others whole
        exact ⟨inFront.cons b, inBack⟩
      · cases early with
        | nil =>
            obtain ⟨rfl, -⟩ := List.cons.inj same
            exact absurd (by simp) alone
        | cons c early =>
            obtain ⟨rfl, rfl⟩ := List.cons.inj same
            obtain ⟨inFront, inBack⟩ := ih others behind
            exact ⟨inFront.cons_cons c, inBack⟩

namespace Action

theorem noLaterThan_trans (first second third : Action) (one : first.noLaterThan second = true)
    (two : second.noLaterThan third = true) : first.noLaterThan third = true := by
  simp only [noLaterThan, Bool.or_eq_true, Bool.and_eq_true, decide_eq_true_eq, beq_iff_eq] at one two ⊢
  omega

theorem noLaterThan_total (first second : Action) :
    (first.noLaterThan second || second.noLaterThan first) = true := by
  simp only [noLaterThan, Bool.or_eq_true, Bool.and_eq_true, decide_eq_true_eq, beq_iff_eq]
  omega

end Action

namespace Ledger

variable {ledger after : Ledger} {id : String} {action : Action}

theorem trailOf_append_of_ne (other : action.requestId ≠ id) :
    (ledger.append action).trailOf id = ledger.trailOf id := by
  simp [trailOf, append, List.filter_append, other]

theorem trailOf_append (about : action.requestId = id) :
    (ledger.append action).trailOf id = ledger.trailOf id ++ [action] := by
  simp [trailOf, append, List.filter_append, about]

theorem history_eq_insertionSort (ledger : Ledger) (id : String) :
    ledger.history id =
      (ledger.trailOf id).insertionSort fun first second => first.noLaterThan second = true :=
  mergeSort_eq_insertionSort Action.noLaterThan_trans Action.noLaterThan_total _

theorem length_history (ledger : Ledger) (id : String) :
    (ledger.history id).length = (ledger.trailOf id).length := (ledger.history_perm id).length_eq

theorem nodup_history (sound : ledger.Sound) (id : String) : (ledger.history id).Nodup :=
  (ledger.history_perm id).nodup_iff.2 (sound.actionIds.of_map.filter _)

/-- Actions that are recorded later are read in between the earlier ones, which stay in their order. -/
theorem history_sublist (longer : ledger.actions <+: after.actions) (id : String) :
    (ledger.history id).Sublist (after.history id) := by
  obtain ⟨more, same⟩ := longer
  have split : after.trailOf id =
      ledger.trailOf id ++ more.filter fun action => action.requestId == id := by
    rw [trailOf, trailOf, ← same, List.filter_append]
  rw [history, history, split]
  exact mergeSort_prefix Action.noLaterThan_trans Action.noLaterThan_total

/-- The actions that are read at one moment are the first that are read later on where all that was recorded since may
stand behind them. -/
theorem history_isPrefix_iff (sound : after.Sound) (longer : ledger.actions <+: after.actions) (id : String) :
    ledger.history id <+: after.history id ↔
      ∀ action ∈ after.history id, action ∉ ledger.history id →
        ∀ other ∈ ledger.history id, other.noLaterThan action = true := by
  obtain ⟨more, same⟩ := longer
  have split : after.trailOf id = ledger.trailOf id ++ more.filter fun action => action.requestId == id := by
    rw [trailOf, trailOf, ← same, List.filter_append]
  have distinct : (after.trailOf id).Nodup := sound.actionIds.of_map.filter _
  rw [split] at distinct
  constructor
  · rintro ⟨rest, whole⟩ action within new other old
    have sorted := List.pairwise_mergeSort Action.noLaterThan_trans Action.noLaterThan_total (after.trailOf id)
    change (after.history id).Pairwise _ at sorted
    rw [← whole] at sorted within
    exact (List.pairwise_append.1 sorted).2.2 other old action ((List.mem_append.1 within).resolve_left new)
  · intro behind
    refine ⟨(more.filter fun action => action.requestId == id).mergeSort Action.noLaterThan, ?_⟩
    rw [history, history, split, mergeSort_append Action.noLaterThan_trans Action.noLaterThan_total]
    intro other old action new
    refine behind action ?_ (fun known => ?_) other ((ledger.history_perm id).mem_iff.2 old)
    · rw [(after.history_perm id).mem_iff, split]
      exact List.mem_append_right _ new
    · exact (List.nodup_append.1 distinct).2.2 action ((ledger.history_perm id).mem_iff.1 known) action new rfl

/-- An action in a place behind all others is read last. -/
theorem history_append_last (about : action.requestId = id)
    (behind : ∀ other ∈ ledger.trailOf id, other.sequence < action.sequence) :
    (ledger.append action).history id = ledger.history id ++ [action] := by
  rw [history, history, trailOf_append about]
  apply mergeSort_concat Action.noLaterThan_trans Action.noLaterThan_total
  intro other within
  simp [Action.noLaterThan, behind other within]

end Ledger

end Countersign
