/-
Module: Countersign.Proofs.Service.Ids
Purpose: New ids differ from all ids of their kind that were taken before.
Main exports: ServiceState.taken, Service.exec_newId, ServiceState.taken_afterNew,
  Service.idText_injective, Text.forall_mem_toDigits, Service.hasHalf_idText
-/
import Countersign.Proofs.Service.Execution

namespace Countersign

/-!
Each kind of ids is counted apart, and an id is its kind with its number. The digits of a number tell the
number, however many zeros stand in front of them, so ids with different numbers differ.
-/

/-! ### Hexadecimal digits -/

namespace Text

/-- The value of a hexadecimal digit. -/
def hexDigitValue (c : Char) : Nat := if c.toNat < 97 then c.toNat - 48 else c.toNat - 87

/-- The number that hexadecimal digits are. -/
def hexValue (digits : List Char) : Nat := digits.foldl (fun n c => 16 * n + hexDigitValue c) 0

theorem hexDigitValue_digitChar {n : Nat} (small : n < 16) : hexDigitValue n.digitChar = n := by
  have all : ∀ n < 16, hexDigitValue n.digitChar = n := by decide
  exact all n small

/-- The digits of a number are read as that number. -/
theorem hexValue_toDigits (n : Nat) : hexValue (Nat.toDigits 16 n) = n := by
  induction n using Nat.strongRecOn with
  | ind n ih =>
      rw [Nat.toDigits_eq_if (by decide)]
      split
      · next small => simpa [hexValue] using hexDigitValue_digitChar small
      · next large =>
          have front := ih (n / 16) (by omega)
          have last := hexDigitValue_digitChar (n := n % 16) (by omega)
          unfold hexValue at front ⊢
          rw [List.foldl_append, front]
          simp only [List.foldl_cons, List.foldl_nil, last]
          omega

/-- Zeros in front do not count. -/
theorem hexValue_zeros_append (count : Nat) (digits : List Char) :
    hexValue (List.replicate count '0' ++ digits) = hexValue digits := by
  induction count with
  | zero => rfl
  | succ count ih =>
      have zero : hexDigitValue '0' = 0 := by decide
      unfold hexValue at ih ⊢
      simpa [List.replicate_succ, zero] using ih

/-- Numbers with the same digits are the same. -/
theorem hexDigits_injective (width : Nat) : Function.Injective (hexDigits width) := by
  intro first second same
  have digits := congrArg (fun s => hexValue s.toList) same
  simpa only [hexDigits, String.toList_ofList, hexValue_zeros_append, hexValue_toDigits] using digits

/-- What is read of a text that starts with plain characters. -/
theorem codesOf_append_of_unmarked {front : List Char} (unmarked : ∀ c ∈ front, c ≠ mark)
    (back : List Char) : codesOf (front ++ back) = front.map Char.toNat ++ codesOf back := by
  induction front with
  | nil => rfl
  | cons c rest ih =>
      have others := ih fun d within => unmarked d (List.mem_cons_of_mem _ within)
      cases joined : rest ++ back with
      | nil =>
          obtain ⟨rfl, rfl⟩ := List.append_eq_nil_iff.1 joined
          rfl
      | cons d more =>
          rw [List.cons_append, joined, codesOf, if_neg (unmarked c (by simp)), ← joined, others]
          rfl

/-- No character is half of a pair. -/
theorem isHalf_toNat (c : Char) : isHalf c.toNat = false := by
  rw [← Bool.not_eq_true, isHalf_iff]
  have valid : c.toNat.isValidChar := c.valid
  unfold Nat.isValidChar at valid
  omega

/-- A text without the mark of halves is read character by character. -/
theorem codes_of_unmarked {s : String} (unmarked : ∀ c ∈ s.toList, c ≠ mark) : codes s = s.toList.map Char.toNat := by
  have kept := codesOf_append_of_unmarked unmarked []
  rwa [List.append_nil, codesOf, List.append_nil] at kept

/-- A text without the mark of halves has none. -/
theorem hasHalf_of_unmarked {s : String} (unmarked : ∀ c ∈ s.toList, c ≠ mark) : hasHalf s = false := by
  rw [hasHalf, codes_of_unmarked unmarked]
  simp [isHalf_toNat]

/-- Every character but the last is no mark. -/
theorem ne_mark_of_lt {c : Char} (below : c.toNat < markCode) : c ≠ mark := by
  rintro rfl
  rw [mark_toNat] at below
  exact Nat.lt_irrefl _ below

theorem unmarked_of_below {s : String} (below : s.toList.all (fun c => c.toNat < markCode) = true) :
    ∀ c ∈ s.toList, c ≠ mark :=
  fun c within => ne_mark_of_lt (of_decide_eq_true (List.all_eq_true.1 below c within))

/-- What the digits of a base have every digit of a number has. -/
theorem forall_mem_toDigits {base : Nat} (several : 1 < base) {P : Char → Prop} (digits : ∀ d < base, P d.digitChar)
    (n : Nat) : ∀ c ∈ Nat.toDigits base n, P c := by
  induction n using Nat.strongRecOn with
  | ind n ih =>
      intro c within
      rw [Nat.toDigits_eq_if several] at within
      split at within
      · next small =>
          obtain rfl := List.mem_singleton.mp within
          exact digits n small
      · next large =>
          rcases List.mem_append.mp within with front | last
          · exact ih (n / base) (Nat.div_lt_self (by omega) several) c front
          · obtain rfl := List.mem_singleton.mp last
            exact digits (n % base) (Nat.mod_lt n (by omega))

theorem toDigits_unmarked : ∀ n, ∀ c ∈ Nat.toDigits 16 n, c ≠ mark := by
  have codes : ∀ d < 16, d.digitChar.toNat < markCode := by decide
  exact forall_mem_toDigits (by decide) fun d small => ne_mark_of_lt (codes d small)

end Text

/-! ### Ids -/

/-- How many ids of a kind have been taken. -/
def ServiceState.taken (s : ServiceState) (kind : String) : Nat := (s.counters.lookup kind).getD 0

/-- The state after an id of a kind was taken. -/
def ServiceState.afterNew (s : ServiceState) (kind : String) : ServiceState :=
  { s with counters := (kind, s.taken kind + 1) :: s.counters.filter (·.1 != kind) }

namespace ServiceState

/-- Taking an id counts its kind alone. -/
theorem taken_afterNew (s : ServiceState) (kind other : String) :
    (s.afterNew kind).taken other = if other = kind then s.taken kind + 1 else s.taken other := by
  have others : other ≠ kind →
      (s.counters.filter (·.1 != kind)).lookup other = s.counters.lookup other := by
    intro different
    induction s.counters with
    | nil => rfl
    | cons counter rest ih =>
        obtain ⟨name, count⟩ := counter
        by_cases dropped : name = kind
        · subst dropped
          have missed : (other == name) = false := by simpa using different
          simpa [List.lookup_cons, missed] using ih
        · by_cases same : other = name
          · subst same
            simp [dropped]
          · have missed : (other == name) = false := by simpa using same
            simpa [List.lookup_cons, dropped, missed] using ih
  by_cases same : other = kind
  · subst same
    simp [taken, afterNew]
  · have missing : (other == kind) = false := by simpa using same
    simp only [taken, afterNew, List.lookup_cons, missing, others same, if_neg same]

/-- No kind is ever counted down. -/
theorem taken_le_afterNew (s : ServiceState) (kind other : String) :
    s.taken other ≤ (s.afterNew kind).taken other := by
  rw [taken_afterNew]
  split
  · next same => subst same; omega
  · exact Nat.le_refl _

end ServiceState

namespace Service

theorem exec_newId (kind : String) (s : ServiceState) :
    exec (newId kind) s = (.ok (idText kind (s.taken kind + 1)), s.afterNew kind) := rfl

/-- Ids of one kind with different numbers differ. -/
theorem idText_injective (kind : String) : Function.Injective (idText kind) := by
  intro first second same
  unfold idText at same
  apply Text.hexDigits_injective 12
  split at same
  · exact same
  · have chars := congrArg String.toList same
    simp only [String.toList_append, List.append_cancel_left_eq] at chars
    exact String.toList_injective chars

/-- An id of a kind without marks has none. -/
theorem idText_unmarked {kind : String} (plain : ∀ c ∈ kind.toList, c ≠ Text.mark) (number : Nat) :
    ∀ c ∈ (idText kind number).toList, c ≠ Text.mark := by
  have zero : '0' ≠ Text.mark := Text.ne_mark_of_lt (by decide)
  have dash : '-' ≠ Text.mark := Text.ne_mark_of_lt (by decide)
  have digits : ∀ c ∈ (Text.hexDigits 12 number).toList, c ≠ Text.mark := by
    intro c within
    rw [Text.hexDigits, String.toList_ofList] at within
    rcases List.mem_append.mp within with padding | digit
    · rw [List.eq_of_mem_replicate padding]
      exact zero
    · exact Text.toDigits_unmarked number c digit
  unfold idText
  split
  · exact digits
  · intro c within
    simp only [String.toList_append, List.mem_append] at within
    rcases within with (front | middle) | last
    · exact plain c front
    · obtain rfl : c = '-' := by simpa using middle
      exact dash
    · exact digits c last

/-- An id of a kind without marks is a text that can be stored. -/
theorem hasHalf_idText {kind : String} (plain : ∀ c ∈ kind.toList, c ≠ Text.mark) (number : Nat) :
    Text.hasHalf (idText kind number) = false := Text.hasHalf_of_unmarked (idText_unmarked plain number)

end Service

end Countersign
