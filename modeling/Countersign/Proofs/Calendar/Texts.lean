/-
Module: Countersign.Proofs.Calendar.Texts
Purpose: When the two ways of writing a moment agree, and what is left of them in capitals.
Main exports: Text.IsStamp.upper_strip, Text.IsStamp.colon_mem_lower_strip, Moment.isStamp_fullText,
  Moment.isStamp_plainText, Moment.SpelledAlike, Moment.plainText_eq_fullText_iff
-/
import Countersign.Proofs.Service.Ids
import Countersign.Text.Blank
import Countersign.Text.LetterCase

namespace Countersign

/-!
A moment is written in full with its whole offset, and plainly with an offset of hours and minutes, or with `Z` for
universal time. The two differ in their colons wherever they differ: an offset has one, and one more where it has
seconds, and `Z` has none. Neither way has blanks, or letters that are not capitals.
-/

namespace Text

/-! ### Texts of digits and a few other characters -/

/-- The characters that moments are written with. -/
def stampChars : List Char := "0123456789-:.+TZ".toList

/-- A text of these characters alone. -/
def IsStamp (s : String) : Prop := ∀ c ∈ s.toList, c ∈ stampChars

instance (s : String) : Decidable (IsStamp s) := List.decidableBAll _ _

namespace IsStamp

variable {s t : String}

theorem append (one : IsStamp s) (two : IsStamp t) : IsStamp (s ++ t) := by
  intro c within
  rw [String.toList_append, List.mem_append] at within
  exact within.elim (one c) (two c)

theorem pad (width n : Nat) : IsStamp (Date.pad width n) := by
  have digits : ∀ d < 10, d.digitChar ∈ stampChars := by decide
  intro c within
  rw [Date.pad, String.toList_ofList, List.mem_append] at within
  rcases within with padding | digit
  · rw [List.eq_of_mem_replicate padding]
    decide
  · exact forall_mem_toDigits (by decide) digits n c digit

variable (stamp : IsStamp s)

include stamp

/-- A test that each of the characters passes is passed by the whole text. -/
theorem passes {test : Char → Bool} (passed : stampChars.all test = true) : ∀ c ∈ s.toList, test c = true :=
  fun c within => List.all_eq_true.1 passed c (stamp c within)

theorem unmarked : ∀ c ∈ s.toList, c ≠ mark := by
  have codes : stampChars.all (fun c => c.toNat < markCode) = true := by decide
  exact fun c within => ne_mark_of_lt (of_decide_eq_true (stamp.passes codes c within))

/-- There are no blanks in it. -/
theorem strip_eq : strip s = s := by
  have plain : stampChars.all (fun c => isBlank c == false) = true := by decide
  refine strip_of_trimmed fun c ends => beq_iff_eq.1 (stamp.passes plain c ?_)
  rw [List.mem_append, Option.mem_toList, Option.mem_toList] at ends
  exact ends.elim List.mem_of_head? List.mem_of_getLast?

/-- It is the same in capitals. -/
theorem upper_strip : upper (strip s) = s := by
  have capital : stampChars.all (fun c => (uppered c.toNat).flatMap charsOf == [c]) = true := by decide +kernel
  have each : ∀ cs : List Char, (∀ c ∈ cs, ((uppered c.toNat).flatMap charsOf == [c]) = true) →
      ((cs.map Char.toNat).flatMap uppered).flatMap charsOf = cs := by
    intro cs known
    induction cs with
    | nil => rfl
    | cons c rest ih =>
        obtain ⟨here, others⟩ := List.forall_mem_cons.1 known
        rw [List.map_cons, List.flatMap_cons, List.flatMap_append, beq_iff_eq.1 here, ih others]
        rfl
  rw [stamp.strip_eq, upper, codes_of_unmarked stamp.unmarked, ofCodes, each _ (stamp.passes capital),
    String.ofList_toList]

/-- Where it has a colon it still has one in small letters. -/
theorem colon_mem_lower_strip (colon : ':' ∈ s.toList) : ':' ∈ (lower (strip s)).toList := by
  rw [stamp.strip_eq, lower, codes_of_unmarked stamp.unmarked, ofCodes, String.toList_ofList]
  refine List.mem_flatMap.2 ⟨':'.toNat, List.mem_flatMap.2 ⟨_, List.mem_map_of_mem colon, ?_⟩, ?_⟩ <;> decide +kernel

end IsStamp

end Text

namespace Moment

open Text

/-! ### Both ways of writing a moment -/

theorem isStamp_clockText (seconds : Nat) : IsStamp (clockText seconds) :=
  ((((IsStamp.pad 2 _).append (by decide)).append (.pad 2 _)).append (by decide)).append (.pad 2 _)

theorem isStamp_fractionText (micros : Nat) : IsStamp (fractionText micros) := by
  unfold fractionText
  split
  · decide
  · exact .append (by decide) (.pad 6 _)

theorem isStamp_localText (m : Moment) : IsStamp m.localText := by
  have date : IsStamp m.date.text :=
    ((((IsStamp.pad 4 _).append (by decide)).append (.pad 2 _)).append (by decide)).append (.pad 2 _)
  exact ((date.append (by decide)).append (isStamp_clockText _)).append (isStamp_fractionText _)

theorem isStamp_shortOffset (offset : Int) : IsStamp (shortOffset offset) := by
  have sign : IsStamp (signText offset) := by
    unfold signText
    split <;> decide
  exact ((sign.append (.pad 2 _)).append (by decide)).append (.pad 2 _)

theorem isStamp_offsetRest (offset : Int) : IsStamp (offsetRest offset) := by
  unfold offsetRest
  dsimp only
  split
  · decide
  · exact .append (.append (by decide) (.pad 2 _)) (isStamp_fractionText _)

theorem isStamp_fullText (m : Moment) : IsStamp m.fullText := by
  refine (isStamp_localText m).append ?_
  cases m.offset with
  | none => decide
  | some offset => exact (isStamp_shortOffset offset).append (isStamp_offsetRest offset)

theorem isStamp_plainText (m : Moment) : IsStamp m.plainText := by
  refine (isStamp_localText m).append ?_
  cases m.offset with
  | none => decide
  | some offset =>
      dsimp only
      split
      · decide
      · exact isStamp_shortOffset _

/-- The time of day is written with colons. -/
theorem colon_mem_localText (m : Moment) : ':' ∈ m.localText.toList := by
  simp [localText, localTextBy, clockText, String.toList_append]

theorem colon_mem_fullText (m : Moment) : ':' ∈ m.fullText.toList := by
  rw [fullText, String.toList_append]
  exact List.mem_append_left _ m.colon_mem_localText

theorem colon_mem_plainText (m : Moment) : ':' ∈ m.plainText.toList := by
  rw [plainText, String.toList_append]
  exact List.mem_append_left _ m.colon_mem_localText

/-! ### Where they agree -/

/-- A moment whose offset, if it has one, is not zero and has no seconds. -/
def SpelledAlike (m : Moment) : Prop := ∀ offset ∈ m.offset, offset ≠ 0 ∧ offset % 60000000 = 0

instance (m : Moment) : Decidable m.SpelledAlike := by
  unfold SpelledAlike
  infer_instance

/-- How many colons a text has. -/
def colons (s : String) : Nat := s.toList.count ':'

theorem colons_append (s t : String) : colons (s ++ t) = colons s + colons t := by
  rw [colons, String.toList_append, List.count_append, colons, colons]

@[simp] theorem colons_pad (width n : Nat) : colons (Date.pad width n) = 0 := by
  have digits : ∀ d < 10, d.digitChar ≠ ':' := by decide
  refine List.count_eq_zero.2 fun within => ?_
  rw [Date.pad, String.toList_ofList, List.mem_append] at within
  rcases within with padding | digit
  · exact absurd (List.eq_of_mem_replicate padding) (by decide)
  · exact forall_mem_toDigits (P := (· ≠ ':')) (by decide) digits n ':' digit rfl

/-- An offset in hours and minutes has one colon. -/
@[simp] theorem colons_shortOffset (offset : Int) : colons (shortOffset offset) = 1 := by
  have sign : colons (signText offset) = 0 := by
    unfold signText
    split <;> decide
  have mark : colons ":" = 1 := by decide
  simp only [shortOffset, colons_append, colons_pad, sign, mark]

/-- What an offset has beyond minutes has a colon. -/
theorem offsetRest_eq_empty_of_colons {offset : Int} (none : colons (offsetRest offset) = 0) :
    offset.natAbs % 60000000 = 0 := by
  by_cases whole : offset.natAbs % 60000000 = 0
  · exact whole
  · have mark : colons ":" = 1 := by decide
    rw [offsetRest, if_neg whole, colons_append, colons_append, mark] at none
    omega

/-- Whole minutes are whole seconds. -/
theorem wholeSeconds_of_minutes {offset : Int} (minutes : offset % 60000000 = 0) :
    wholeSeconds offset * microsPerSecond = offset := by
  unfold wholeSeconds microsPerSecond
  dsimp only
  split <;> omega

/-- The two ways of writing a moment agree where it has no offset, or one that is not zero and has no seconds. -/
theorem plainText_eq_fullText_iff (m : Moment) : m.plainText = m.fullText ↔ m.SpelledAlike := by
  obtain ⟨wall, found⟩ := m
  cases found with
  | none => exact iff_of_true rfl nofun
  | some offset =>
  rw [plainText, fullText, String.append_right_inj, SpelledAlike]
  simp only [offsetText, Option.mem_def, Option.some.injEq, forall_eq']
  constructor
  · intro same
    have counted := congrArg colons same
    rw [colons_append, colons_shortOffset] at counted
    by_cases zero : wholeSeconds offset = 0
    · rw [if_pos zero, show colons "Z" = 0 from by decide] at counted
      omega
    · rw [if_neg zero, colons_shortOffset] at counted
      have whole : offset.natAbs % 60000000 = 0 := offsetRest_eq_empty_of_colons (by omega)
      refine ⟨fun none => zero ?_, by omega⟩
      rw [none]
      rfl
  · rintro ⟨some, minutes⟩
    have seconds := wholeSeconds_of_minutes minutes
    have rest : offsetRest offset = "" := if_pos (by omega)
    rw [if_neg, seconds, rest, String.append_empty]
    intro zero
    rw [zero, Int.zero_mul] at seconds
    exact some seconds.symm

end Moment

end Countersign
