/-
Module: Countersign.Proofs.Ledger.Keys
Purpose: Which actions have the same key, and whether a key can be stored.
Main exports: Action.of_keyOf_eq, Action.eq_of_keyOf_eq, Action.hasHalf_keyOf, Action.keyOf_eq_iff
-/
import Countersign.Approval.Request
import Countersign.Proofs.Service.Ids

namespace Countersign

open Service

/-!
The parts of a key are joined by colons, and only the role in the middle may hold colons of its own. An id has
none, so the id of the request is what stands in front of the first colon, and what stands behind the last one is
a decision or the id of the action. So two keys are the same only for two approvals of one role, or for one action.
A role that reads like the end of another key makes no difference, since it is always cut at both ends.
-/

/-! ### Texts joined by colons -/

/-- Two lists are the same in front of and behind the first of some entry. -/
theorem split_first {α : Type} {front front' back back' : List α} {a : α} (free : a ∉ front)
    (free' : a ∉ front') (same : front ++ a :: back = front' ++ a :: back') :
    front = front' ∧ back = back' := by
  induction front generalizing front' with
  | nil =>
      cases front' with
      | nil => exact ⟨rfl, (List.cons.inj same).2⟩
      | cons b rest => exact absurd (by simp [(List.cons.inj same).1]) free'
  | cons b rest ih =>
      cases front' with
      | nil => exact absurd (by simp [(List.cons.inj same).1]) free
      | cons c others =>
          simp only [List.cons_append, List.cons.injEq] at same
          obtain ⟨rfl, same⟩ := same
          obtain ⟨rfl, behind⟩ := ih (fun within => free (by simp [within]))
            (fun within => free' (by simp [within])) same
          exact ⟨rfl, behind⟩

/-- And in front of and behind the last one. -/
theorem split_last {α : Type} {front front' back back' : List α} {a : α} (free : a ∉ back)
    (free' : a ∉ back') (same : front ++ a :: back = front' ++ a :: back') :
    front = front' ∧ back = back' := by
  have reversed := congrArg List.reverse same
  simp only [List.reverse_append, List.reverse_cons, List.append_assoc, List.singleton_append] at reversed
  obtain ⟨back, front⟩ := split_first (by simpa using free) (by simpa using free') reversed
  exact ⟨List.reverse_inj.1 front, List.reverse_inj.1 back⟩

namespace Text

/-- Hexadecimal digits are no colons. -/
theorem toDigits_colonless (n : Nat) : ':' ∉ Nat.toDigits 16 n := by
  have digits : ∀ d < 16, d.digitChar ≠ ':' := by decide
  induction n using Nat.strongRecOn with
  | ind n ih =>
      rw [Nat.toDigits_eq_if (by decide)]
      split
      · next small =>
          rw [List.mem_singleton]
          exact (digits n small).symm
      · next large =>
          intro within
          rcases List.mem_append.mp within with front | last
          · exact ih (n / 16) (by omega) front
          · exact digits (n % 16) (by omega) (List.mem_singleton.mp last).symm

/-- Plain characters behind a plain one add no halves. -/
theorem any_codesOf_append {plain : Char} (unmarked : plain ≠ mark) {back : List Char}
    (rest : ∀ c ∈ back, c ≠ mark) (front : List Char) :
    (codesOf (front ++ plain :: back)).any isHalf = (codesOf (front ++ [plain])).any isHalf := by
  have whole : (codesOf back).any isHalf = false := by
    rw [← back.append_nil, codesOf_append_of_unmarked rest]
    simp [codesOf, isHalf_toNat]
  have behind : (codesOf (plain :: back)).any isHalf = false := by
    have first := codesOf_append_of_unmarked (show ∀ c ∈ [plain], c ≠ mark by simpa using unmarked) back
    simp only [List.singleton_append] at first
    simp [first, whole, isHalf_toNat]
  induction front using codesOf.induct with
  | case1 => simpa [codesOf, isHalf_toNat] using behind
  | case2 c =>
      by_cases marked : c = mark
      · simp [codesOf, marked, whole]
      · simp [codesOf, marked, behind, isHalf_toNat]
  | case3 d others ih => simp [codesOf, ih]
  | case4 c d others other ih => simpa [codesOf, other, isHalf_toNat] using ih

/-- A text that has no half when another is put behind it has none. -/
theorem any_codesOf_of_append (plain : Char) {front : List Char}
    (whole : (codesOf (front ++ [plain])).any isHalf = false) : (codesOf front).any isHalf = false := by
  induction front using codesOf.induct with
  | case1 => rfl
  | case2 c => simp [codesOf, isHalf_toNat]
  | case3 d others ih =>
      simp only [List.cons_append, codesOf, if_true, List.any_cons, Bool.or_eq_false_iff] at whole ⊢
      exact ⟨whole.1, ih whole.2⟩
  | case4 c d others other ih =>
      simp only [List.cons_append, codesOf, if_neg other, List.any_cons, Bool.or_eq_false_iff] at whole ⊢
      exact ⟨whole.1, ih whole.2⟩

/-- A text between plain ones has a half where it has one when a colon is put behind it. -/
theorem hasHalf_between {front back : String} (one : ∀ c ∈ front.toList, c ≠ mark)
    (two : ∀ c ∈ back.toList, c ≠ mark) (s : String) :
    hasHalf (front ++ s ++ ":" ++ back) = hasHalf (s ++ ":") := by
  have colon : ':' ≠ mark := ne_mark_of_lt (by decide)
  have shape : (front ++ s ++ ":" ++ back).toList = front.toList ++ (s.toList ++ ':' :: back.toList) := by
    simp
  have last : (s ++ ":").toList = s.toList ++ [':'] := by simp
  rw [hasHalf, hasHalf, codes, codes, shape, last, codesOf_append_of_unmarked one, List.any_append,
    any_codesOf_append colon two]
  simp [isHalf_toNat]

/-- A text that has no half when a colon is put behind it has none. -/
theorem hasHalf_of_colon {s : String} (whole : hasHalf (s ++ ":") = false) : hasHalf s = false := by
  refine any_codesOf_of_append ':' ?_
  rw [hasHalf, codes] at whole
  simpa using whole

end Text

namespace Service

/-- An id of a kind without colons has none. -/
theorem idText_colonless {kind : String} (plain : ':' ∉ kind.toList) (number : Nat) :
    ':' ∉ (idText kind number).toList := by
  have digits : ':' ∉ (Text.hexDigits 12 number).toList := by
    rw [Text.hexDigits, String.toList_ofList]
    intro within
    rcases List.mem_append.mp within with padding | digit
    · exact absurd (List.eq_of_mem_replicate padding) (by decide)
    · exact Text.toDigits_colonless number digit
  unfold idText
  split
  · exact digits
  · simpa [plain] using digits

/-- The ids that the service gives have neither colons nor marks. -/
theorem idText_plain {kind : String} (known : kind = "APR" ∨ kind = "ACT") (number : Nat) :
    ':' ∉ (idText kind number).toList ∧ ∀ c ∈ (idText kind number).toList, c ≠ Text.mark := by
  have below : kind.toList.all (fun c => c.toNat < Text.markCode) = true ∧ ':' ∉ kind.toList := by
    rcases known with rfl | rfl <;> decide
  exact ⟨idText_colonless below.2 number, idText_unmarked (Text.unmarked_of_below below.1) number⟩

end Service

namespace Decision

theorem name_colonless (decision : Decision) : ':' ∉ decision.name.toList := by cases decision <;> decide

theorem name_injective {one two : Decision} (same : one.name = two.name) : one = two := by
  cases one <;> cases two <;> first | rfl | exact absurd same (by decide)

end Decision

namespace Action

/-- What stands behind the last colon of a key. -/
def keyEnd (decision : Decision) (actionId : String) : String :=
  match decision with
  | .approve => decision.name
  | _ => actionId

/-- What stands between the first colon of a key and the last. -/
def keyMiddle (role : String) (decision : Decision) : String :=
  match decision with
  | .approve => role
  | _ => role ++ ":" ++ decision.name

theorem toList_keyOf (requestId role : String) (decision : Decision) (actionId : String) :
    (keyOf requestId role decision actionId).toList =
      requestId.toList ++ ':' :: ((keyMiddle role decision).toList ++ ':' :: (keyEnd decision actionId).toList) := by
  cases decision <;> simp [keyOf, keyMiddle, keyEnd]

/-- Only approvals have keys that do not tell the id of the action. -/
theorem keyEnd_of_ne {decision : Decision} (other : decision ≠ .approve) (actionId : String) :
    keyEnd decision actionId = actionId := by
  cases decision with
  | approve => exact absurd rfl other
  | _ => rfl

theorem keyMiddle_of_ne {decision : Decision} (other : decision ≠ .approve) (role : String) :
    keyMiddle role decision = role ++ ":" ++ decision.name := by
  cases decision with
  | approve => exact absurd rfl other
  | _ => rfl

theorem keyEnd_colonless {actionId : String} (plain : ':' ∉ actionId.toList) (decision : Decision) :
    ':' ∉ (keyEnd decision actionId).toList := by
  cases decision with
  | approve => exact Decision.approve.name_colonless
  | _ => exact plain

/-- What stands in the middle of the keys of actions that are no approvals tells the role and the decision. -/
theorem of_keyMiddle_eq {role role' : String} {decision decision' : Decision} (other : decision ≠ .approve)
    (other' : decision' ≠ .approve) (same : keyMiddle role decision = keyMiddle role' decision') :
    role = role' ∧ decision = decision' := by
  have chars := congrArg String.toList same
  simp only [keyMiddle_of_ne other, keyMiddle_of_ne other', String.append_assoc, String.toList_append] at chars
  obtain ⟨roles, names⟩ := split_last decision.name_colonless decision'.name_colonless chars
  exact ⟨String.toList_injective roles, Decision.name_injective (String.toList_injective names)⟩

section Same

variable {requestId other role role' actionId otherId : String} {decision decision' : Decision}

/-- Two actions with the same key are on one request, by one role and with one decision, and they have the same id
unless they are approvals. -/
theorem of_keyOf_eq (plain : ':' ∉ requestId.toList) (plain' : ':' ∉ other.toList) (single : ':' ∉ actionId.toList)
    (single' : ':' ∉ otherId.toList) (unnamed : actionId ≠ Decision.approve.name)
    (unnamed' : otherId ≠ Decision.approve.name)
    (same : keyOf requestId role decision actionId = keyOf other role' decision' otherId) :
    requestId = other ∧ role = role' ∧ decision = decision' ∧ (decision ≠ .approve → actionId = otherId) := by
  have chars := congrArg String.toList same
  rw [toList_keyOf, toList_keyOf] at chars
  obtain ⟨ids, behind⟩ := split_first plain plain' chars
  obtain ⟨middles, ends⟩ := split_last (keyEnd_colonless single _) (keyEnd_colonless single' _) behind
  have ids : requestId = other := String.toList_injective ids
  have middles := String.toList_injective middles
  have ends := String.toList_injective ends
  by_cases approves : decision = .approve
  · by_cases approves' : decision' = .approve
    · subst approves approves'
      exact ⟨ids, middles, rfl, fun no => absurd rfl no⟩
    · subst approves
      rw [keyEnd_of_ne approves'] at ends
      exact absurd ends.symm unnamed'
  · by_cases approves' : decision' = .approve
    · subst approves'
      rw [keyEnd_of_ne approves] at ends
      exact absurd ends unnamed
    · obtain ⟨roles, decisions⟩ := of_keyMiddle_eq approves approves' middles
      rw [keyEnd_of_ne approves, keyEnd_of_ne approves'] at ends
      exact ⟨ids, roles, decisions, fun _ => ends⟩

/-- Approvals have keys that tell only the request and the role. -/
theorem keyOf_approve (requestId role actionId : String) :
    keyOf requestId role .approve actionId = requestId ++ ":" ++ role ++ ":" ++ Decision.approve.name := rfl

/-- Where request ids and action ids have no colons and no action is called like an approval, two actions have the
same key exactly where both are approvals of one request by one role, or where both are none and agree in the
request, the role, the decision and their id. Roles may be any texts. -/
theorem keyOf_eq_iff (plain : ':' ∉ requestId.toList) (plain' : ':' ∉ other.toList) (single : ':' ∉ actionId.toList)
    (single' : ':' ∉ otherId.toList) (unnamed : actionId ≠ Decision.approve.name)
    (unnamed' : otherId ≠ Decision.approve.name) :
    keyOf requestId role decision actionId = keyOf other role' decision' otherId ↔
      (decision = .approve ∧ decision' = .approve ∧ requestId = other ∧ role = role') ∨
      (decision ≠ .approve ∧ decision' ≠ .approve ∧ requestId = other ∧ role = role' ∧ decision = decision' ∧
        actionId = otherId) := by
  constructor
  · intro same
    obtain ⟨requests, roles, rfl, ids⟩ := of_keyOf_eq plain plain' single single' unnamed unnamed' same
    by_cases approves : decision = .approve
    · exact Or.inl ⟨approves, approves, requests, roles⟩
    · exact Or.inr ⟨approves, approves, requests, roles, rfl, ids approves⟩
  · rintro (⟨rfl, rfl, rfl, rfl⟩ | ⟨-, -, rfl, rfl, rfl, rfl⟩)
    · rw [keyOf_approve, keyOf_approve]
    · rfl

/-- An approval by a role that is called like the end of a rejection's key has another key than that rejection, and
the same as its repetition. -/
theorem keyOf_eq_iff_of_colons :
    ':' ∉ "APR-1".toList ∧ ':' ∉ "ACT-1".toList ∧ ':' ∉ "ACT-2".toList ∧
      "ACT-1" ≠ Decision.approve.name ∧ "ACT-2" ≠ Decision.approve.name ∧
      keyOf "APR-1" "CFO:Reject:ACT-1" .approve "ACT-2" ≠ keyOf "APR-1" "CFO" .reject "ACT-1" ∧
      keyOf "APR-1" "CFO:Reject:ACT-1" .approve "ACT-2" = keyOf "APR-1" "CFO:Reject:ACT-1" .approve "ACT-1" := by
  have request : ':' ∉ "APR-1".toList := by decide
  have first : ':' ∉ "ACT-1".toList := by decide
  have second : ':' ∉ "ACT-2".toList := by decide
  have one : "ACT-1" ≠ Decision.approve.name := by decide
  have two : "ACT-2" ≠ Decision.approve.name := by decide
  refine ⟨request, first, second, one, two, fun same => ?_, ?_⟩
  · rcases (keyOf_eq_iff request request second first two one).1 same with ⟨-, rejects, -⟩ | ⟨approves, -⟩
    · cases rejects
    · exact approves rfl
  · exact (keyOf_eq_iff request request second first two one).2 (Or.inl ⟨rfl, rfl, rfl, rfl⟩)

end Same

/-- No action is called like an approval. -/
theorem idText_ne_approve (number : Nat) : idText "ACT" number ≠ Decision.approve.name := by
  intro same
  have second := congrArg (fun s : String => s.toList[1]?) same
  simp [Decision.name, idText] at second

/-- Two actions with the same key are two approvals of one role on one request, or have the same id. -/
theorem eq_of_keyOf_eq {requestId other role role' : String} {decision decision' : Decision}
    {number number' : Nat} (plain : ':' ∉ requestId.toList) (plain' : ':' ∉ other.toList)
    (same : keyOf requestId role decision (idText "ACT" number) =
      keyOf other role' decision' (idText "ACT" number')) :
    (requestId = other ∧ role = role' ∧ decision = .approve ∧ decision' = .approve) ∨
      number = number' := by
  obtain ⟨requests, roles, rfl, ids⟩ := of_keyOf_eq plain plain' (idText_plain (.inr rfl) number).1
    (idText_plain (.inr rfl) number').1 (idText_ne_approve number) (idText_ne_approve number') same
  by_cases approves : decision = .approve
  · exact Or.inl ⟨requests, roles, approves, approves⟩
  · exact Or.inr (idText_injective "ACT" (ids approves))

/-- A key has a half where the role has one when a colon is put behind it. -/
theorem hasHalf_keyOf {requestId : String} (plain : ∀ c ∈ requestId.toList, c ≠ Text.mark) (role : String)
    (decision : Decision) (number : Nat) :
    Text.hasHalf (keyOf requestId role decision (idText "ACT" number)) = Text.hasHalf (role ++ ":") := by
  have colon : ∀ c ∈ ":".toList, c ≠ Text.mark := Text.unmarked_of_below (by decide)
  have front : ∀ c ∈ (requestId ++ ":").toList, c ≠ Text.mark := by
    intro c within
    rw [String.toList_append] at within
    exact (List.mem_append.1 within).elim (plain c) (colon c)
  have named (decision : Decision) : ∀ c ∈ decision.name.toList, c ≠ Text.mark :=
    Text.unmarked_of_below (by cases decision <;> decide)
  have ended (decision : Decision) :
      ∀ c ∈ (decision.name ++ (":" ++ idText "ACT" number)).toList, c ≠ Text.mark := by
    intro c within
    rw [String.toList_append, String.toList_append] at within
    rcases List.mem_append.1 within with name | rest
    · exact named decision c name
    · exact (List.mem_append.1 rest).elim (colon c) ((idText_plain (.inr rfl) number).2 c)
  cases decision with
  | approve => exact Text.hasHalf_between front (named .approve) role
  | reject =>
      rw [← Text.hasHalf_between front (ended .reject) role]
      simp [keyOf, String.append_assoc]
  | requestChanges =>
      rw [← Text.hasHalf_between front (ended .requestChanges) role]
      simp [keyOf, String.append_assoc]

end Action

end Countersign
