/-
Module: Countersign.Proofs.Condition.Grammar
Purpose: The values that are read as conditions, as a grammar, and that a condition is written as it was read.
Main exports: Value.isScalar, Fields.Exactly, Fields.Same, Condition.Grammatical, Condition.check_sound,
  Condition.check_complete, Condition.check_value, Condition.grammar
-/
import Countersign.Condition.Basic
import Countersign.Proofs.Schema.Reading
import Countersign.Proofs.Store.Documents
import Mathlib.Data.Set.List

namespace Countersign

/-!
The grammar of conditions is told without the reader: which names a record has, and of what kind the value of each one
is. The reader decides by the operator alone, so a record is never tried as the other kind of condition. Nothing but
the order of the names is lost between a value that was read and the condition as it is written: each scalar keeps its
kind.
-/

/-- A truth value, a number or a text. -/
def Value.isScalar : Value → Bool
  | .bool _ | .int _ | .float _ | .text _ => true
  | _ => false

namespace Fields

/-- A record has certain names, and no others. -/
def Exactly (fields : Fields) (names : List String) : Prop := ∀ name, name ∈ fields.names ↔ name ∈ names

/-- Two records that give every name the same value, in whatever order. -/
def Same (left right : Fields) : Prop := ∀ name, left.get? name = right.get? name

end Fields

/-- Only the empty text has no characters. -/
theorem Text.length_eq_zero_iff {s : String} : length s = 0 ↔ s = "" := by
  have filled {c : Char} {rest : List Char} : codesOf (c :: rest) ≠ [] := by
    cases rest with
    | nil => simp [codesOf]
    | cons d more =>
        unfold codesOf
        split_ifs <;> simp
  rw [length, codes, List.length_eq_zero_iff, ← String.toList_eq_nil_iff]
  cases s.toList with
  | nil => simp [codesOf]
  | cons c rest => simpa using filled

namespace Condition

/-- The names that a text has as the field of a condition: texts that are not empty and hold no half of a pair. -/
def IsFieldName (s : String) : Prop := s ≠ "" ∧ Text.hasHalf s = false

theorem boundedText_eq_accepted_iff {v : Value} {s : String} :
    Reader.boundedText 1 none v = .accepted s ↔ v = .text s ∧ IsFieldName s := by
  rw [Reader.boundedText_eq_accepted_iff, Nat.one_le_iff_ne_zero, Ne, Text.length_eq_zero_iff]
  simp [IsFieldName, and_comm]

/-- The values that are conditions, where the names of fields are of a given kind. -/
inductive Grammatical (isField : String → Prop) : Value → Prop where
  | compare {fields : Fields} {field : String} {operand : Value} (operator : Comparison)
      (exactly : fields.Exactly ["field", "operator", "value"])
      (named : fields.get? "field" = some (.text field)) (proper : isField field)
      (tagged : fields.get? "operator" = some (.text operator.name))
      (given : fields.get? "value" = some operand) (scalar : operand.isScalar = true) :
      Grammatical isField (.record fields)
  | member {fields : Fields} {field : String} {operands : List Value} (operator : Membership)
      (exactly : fields.Exactly ["field", "operator", "values"])
      (named : fields.get? "field" = some (.text field)) (proper : isField field)
      (tagged : fields.get? "operator" = some (.text operator.name))
      (given : fields.get? "values" = some (.list operands)) (filled : operands ≠ [])
      (scalars : ∀ operand ∈ operands, operand.isScalar = true) :
      Grammatical isField (.record fields)

end Condition

/-! ### Scalars and lists of them -/

namespace Scalar

theorem isScalar_value (s : Scalar) : s.value.isScalar = true := by
  cases s <;> rfl

/-- The values of the four kinds are those that scalars are written as. -/
theorem isScalar_iff {v : Value} : v.isScalar = true ↔ v ∈ Set.range value := by
  constructor
  · intro scalar
    cases v with
    | bool b => exact ⟨bool b, rfl⟩
    | int n => exact ⟨int n, rfl⟩
    | float x => exact ⟨float x, rfl⟩
    | text s => exact ⟨text s, rfl⟩
    | _ => cases scalar
  · rintro ⟨s, rfl⟩
    exact s.isScalar_value

theorem check_eq_accepted_iff (v : Value) (s : Scalar) : check v = .accepted s ↔ v = s.value := by
  constructor
  · exact fun read => (value_of_check read).symm
  · rintro rfl
    exact s.check_value

/-- Scalars are read from the list of what they are written as, if there is one at all. -/
theorem someItems_eq_accepted_iff {v : Value} {operands : List Scalar} :
    Reader.someItems check v = .accepted operands ↔ v = .list (operands.map value) ∧ operands ≠ [] := by
  rw [Reader.someItems_eq_accepted_iff, Reader.items_eq_accepted_iff_of_exact check_eq_accepted_iff]

end Scalar

namespace Condition

variable {fields : Fields} {condition : Condition}

/-! ### Records whose operator is known -/

/-- The three names of a condition are whole, so a record that has no other name has no name with half of a pair. -/
theorem whole_of_exactly {operand : String} (whole : Text.hasHalf operand = false)
    (exactly : fields.Exactly ["field", "operator", operand]) : ∀ name ∈ fields.names, Text.hasHalf name = false := by
  intro name member
  have plain : Text.hasHalf "field" = false ∧ Text.hasHalf "operator" = false := by decide
  rcases List.mem_cons.1 ((exactly name).1 member) with rfl | later
  · exact plain.1
  · rcases List.mem_pair.1 later with rfl | rfl
    · exact plain.2
    · exact whole

/-- A record has no names but three, and has each of them. -/
theorem exactly_of_closed {operand : String} (closed : ∀ name ∈ fields.names, name ∈ ["field", "operator", operand])
    (field : "field" ∈ fields.names) (operator : "operator" ∈ fields.names) (given : operand ∈ fields.names) :
    fields.Exactly ["field", "operator", operand] := by
  refine fun name => ⟨closed name, fun known => ?_⟩
  rcases List.mem_cons.1 known with rfl | later
  · exact field
  · rcases List.mem_pair.1 later with rfl | rfl
    · exact operator
    · exact given

theorem checkCompare_eq_accepted_iff {operator : Comparison} (tagged : "operator" ∈ fields.names) :
    checkCompare operator fields = .accepted condition ↔
      fields.Exactly ["field", "operator", "value"] ∧ ∃ field operand, condition = compare field operator operand ∧
        fields.get? "field" = some (.text field) ∧ IsFieldName field ∧
        fields.get? "value" = some operand.value := by
  simp only [checkCompare, Fields.wholly_eq_accepted_iff, Checked.seq_eq_accepted_iff, Checked.map_eq_accepted_iff,
    Fields.required_eq_accepted_iff, boundedText_eq_accepted_iff, Scalar.check_eq_accepted_iff,
    Fields.closed_eq_accepted_iff]
  constructor
  · rintro ⟨-, _, _, ⟨_, operand, ⟨field, ⟨_, named, rfl, proper⟩, rfl⟩, ⟨_, given, rfl⟩, rfl⟩, closed, rfl⟩
    refine ⟨?_, field, operand, rfl, named, proper, given⟩
    exact exactly_of_closed closed (Fields.mem_names_of_get? named) tagged (Fields.mem_names_of_get? given)
  · rintro ⟨exactly, field, operand, rfl, named, proper, given⟩
    exact ⟨whole_of_exactly (by decide) exactly, _, (), ⟨_, operand, ⟨field, ⟨_, named, rfl, proper⟩, rfl⟩,
      ⟨_, given, rfl⟩, rfl⟩, fun name => (exactly name).1, rfl⟩

theorem checkMember_eq_accepted_iff {operator : Membership} (tagged : "operator" ∈ fields.names) :
    checkMember operator fields = .accepted condition ↔
      fields.Exactly ["field", "operator", "values"] ∧ ∃ field operands, condition = member field operator operands ∧
        fields.get? "field" = some (.text field) ∧ IsFieldName field ∧
        fields.get? "values" = some (.list (operands.map Scalar.value)) ∧ operands ≠ [] := by
  simp only [checkMember, Fields.wholly_eq_accepted_iff, Checked.seq_eq_accepted_iff, Checked.map_eq_accepted_iff,
    Fields.required_eq_accepted_iff, boundedText_eq_accepted_iff, Scalar.someItems_eq_accepted_iff,
    Fields.closed_eq_accepted_iff]
  constructor
  · rintro ⟨-, _, _, ⟨_, operands, ⟨field, ⟨_, named, rfl, proper⟩, rfl⟩, ⟨_, given, rfl, filled⟩, rfl⟩, closed, rfl⟩
    refine ⟨?_, field, operands, rfl, named, proper, given, filled⟩
    exact exactly_of_closed closed (Fields.mem_names_of_get? named) tagged (Fields.mem_names_of_get? given)
  · rintro ⟨exactly, field, operands, rfl, named, proper, given, filled⟩
    exact ⟨whole_of_exactly (by decide) exactly, _, (), ⟨_, operands, ⟨field, ⟨_, named, rfl, proper⟩, rfl⟩,
      ⟨_, given, rfl, filled⟩, rfl⟩, fun name => (exactly name).1, rfl⟩

/-- A record is read as the kind of condition that its operator belongs to. -/
theorem check_record_eq_accepted_iff :
    check (.record fields) = .accepted condition ↔
      (∃ operator : Comparison, fields.get? "operator" = some (.text operator.name) ∧
        checkCompare operator fields = .accepted condition) ∨
      ∃ operator : Membership, fields.get? "operator" = some (.text operator.name) ∧
        checkMember operator fields = .accepted condition := by
  constructor
  · intro read
    unfold check at read
    dsimp only at read
    split at read
    · cases read
    · rename_i tag tagged
      split at read
      · rename_i name
        split at read
        · rename_i operator known
          obtain rfl : operator.name = name := by simpa using List.find?_some known
          exact Or.inl ⟨operator, tagged, Checked.under_eq_accepted_iff.1 read⟩
        · rename_i operator unknown known
          obtain rfl : operator.name = name := by simpa using List.find?_some known
          exact Or.inr ⟨operator, tagged, Checked.under_eq_accepted_iff.1 read⟩
        · cases read
      · cases read
  · rintro (⟨operator, tagged, read⟩ | ⟨operator, tagged, read⟩)
    · simp only [check, tagged, Comparison.ofName?_name]
      exact Checked.under_eq_accepted_iff.2 read
    · simp only [check, tagged, operator.comparison_ofName?_name, Membership.ofName?_name]
      exact Checked.under_eq_accepted_iff.2 read

/-- A condition that was read is read again from what it is written as. -/
theorem check_value {v : Value} (read : check v = .accepted condition) :
    check condition.value = .accepted condition := by
  cases v with
  | record fields =>
      rcases check_record_eq_accepted_iff.1 read with ⟨operator, tagged, compared⟩ | ⟨operator, tagged, tested⟩
      · obtain ⟨-, field, operand, rfl, -, proper, -⟩ :=
          (checkCompare_eq_accepted_iff (Fields.mem_names_of_get? tagged)).1 compared
        refine check_record_eq_accepted_iff.2 (Or.inl ⟨operator, rfl, ?_⟩)
        exact (checkCompare_eq_accepted_iff (Fields.mem_names_of_get? rfl)).2
          ⟨fun _ => Iff.rfl, field, operand, rfl, rfl, proper, rfl⟩
      · obtain ⟨-, field, operands, rfl, -, proper, -, filled⟩ :=
          (checkMember_eq_accepted_iff (Fields.mem_names_of_get? tagged)).1 tested
        refine check_record_eq_accepted_iff.2 (Or.inr ⟨operator, rfl, ?_⟩)
        exact (checkMember_eq_accepted_iff (Fields.mem_names_of_get? rfl)).2
          ⟨fun _ => Iff.rfl, field, operands, rfl, rfl, proper, rfl, filled⟩
  | _ => cases read

/-! ### The grammar -/

/-- Every value of the grammar is read. -/
theorem check_complete {v : Value} (grammatical : Grammatical IsFieldName v) :
    ∃ condition, check v = .accepted condition := by
  cases grammatical with
  | @compare fields field operand operator exactly named proper tagged given scalar =>
      obtain ⟨s, rfl⟩ := Scalar.isScalar_iff.1 scalar
      refine ⟨compare field operator s, check_record_eq_accepted_iff.2 (Or.inl ⟨operator, tagged, ?_⟩)⟩
      exact (checkCompare_eq_accepted_iff (Fields.mem_names_of_get? tagged)).2
        ⟨exactly, field, s, rfl, named, proper, given⟩
  | @member fields field values operator exactly named proper tagged given filled scalars =>
      obtain ⟨operands, rfl⟩ : values ∈ Set.range (List.map Scalar.value) := by
        rw [Set.range_list_map]
        exact fun operand within => Scalar.isScalar_iff.1 (scalars operand within)
      refine ⟨member field operator operands, check_record_eq_accepted_iff.2 (Or.inr ⟨operator, tagged, ?_⟩)⟩
      exact (checkMember_eq_accepted_iff (Fields.mem_names_of_get? tagged)).2
        ⟨exactly, field, operands, rfl, named, proper, given, by simpa using filled⟩

/-- What is written of the three fields of a record that has no others is that record. -/
theorem same_of_exactly {operand : String} {field operator given : Value}
    (exactly : fields.Exactly ["field", "operator", operand]) (named : fields.get? "field" = some field)
    (tagged : fields.get? "operator" = some operator) (found : fields.get? operand = some given) :
    Fields.Same [("field", field), ("operator", operator), (operand, given)] fields := by
  intro name
  simp only [Fields.get?_cons, Fields.get?_nil]
  split_ifs with isField isOperator isOperand
  · rw [← isField, named]
  · rw [← isOperator, tagged]
  · rw [← isOperand, found]
  · refine (Fields.get?_eq_none_iff.2 fun member => ?_).symm
    rcases List.mem_cons.1 ((exactly name).1 member) with same | later
    · exact isField same.symm
    · rcases List.mem_pair.1 later with same | same
      · exact isOperator same.symm
      · exact isOperand same.symm

/-- What is read is of the grammar, and is written as it was. -/
theorem check_sound {v : Value} (read : check v = .accepted condition) :
    Grammatical IsFieldName v ∧
    ∃ fields written : Fields, v = .record fields ∧ condition.value = .record written ∧ written.Same fields := by
  cases v with
  | record fields =>
      rcases check_record_eq_accepted_iff.1 read with ⟨operator, tagged, compared⟩ | ⟨operator, tagged, tested⟩
      · obtain ⟨exactly, field, operand, rfl, named, proper, given⟩ :=
          (checkCompare_eq_accepted_iff (Fields.mem_names_of_get? tagged)).1 compared
        exact ⟨.compare operator exactly named proper tagged given operand.isScalar_value,
          fields, _, rfl, rfl, same_of_exactly exactly named tagged given⟩
      · obtain ⟨exactly, field, operands, rfl, named, proper, given, filled⟩ :=
          (checkMember_eq_accepted_iff (Fields.mem_names_of_get? tagged)).1 tested
        refine ⟨.member operator exactly named proper tagged given (by simpa using filled) ?_,
          fields, _, rfl, rfl, same_of_exactly exactly named tagged given⟩
        exact List.forall_mem_map.2 fun operand _ => operand.isScalar_value
  | _ => cases read

/-- The values that are read as conditions are exactly those of the grammar, in which the name of a field holds no half
of a pair; and a condition is written as the record that it was read from, each value of its own kind. -/
theorem grammar (v : Value) :
    ((∃ condition, check v = .accepted condition) ↔ Grammatical (fun s => s ≠ "" ∧ Text.hasHalf s = false) v) ∧
    ∀ condition, check v = .accepted condition →
      ∃ fields written : Fields, v = .record fields ∧ condition.value = .record written ∧ written.Same fields :=
  ⟨⟨fun ⟨_, read⟩ => (check_sound read).1, check_complete⟩, fun _ read => (check_sound read).2⟩

end Condition

namespace Trial

/-- A test of membership whose names stand in another order, with four scalars that other languages take for one. -/
def mixedTest : Fields :=
  [("values", .list [.bool true, .int 1, .float (.finite false 4503599627370496 1022), .text "1"]),
    ("operator", .text "in"), ("field", .text "quantity")]

/-- A comparison of a field whose name is the first half of a pair alone. -/
def halfField : Fields :=
  [("field", .text (Text.ofCodes [0xd800])), ("operator", .text "equals"), ("value", .int 1)]

end Trial

namespace Condition

/-- The test is read, and written with its four scalars apart. -/
theorem grammar_of_mixed :
    check (.record Trial.mixedTest) = .accepted
      (member "quantity" .isIn [.bool true, .int 1, .float (.finite false 4503599627370496 1022), .text "1"]) ∧
    Grammatical (fun s => s ≠ "" ∧ Text.hasHalf s = false) (.record Trial.mixedTest) ∧
    ∃ fields written : Fields, Value.record Trial.mixedTest = .record fields ∧
      (member "quantity" .isIn
        [.bool true, .int 1, .float (.finite false 4503599627370496 1022), .text "1"]).value = .record written ∧
      Fields.Same written fields := by
  have read : check (.record Trial.mixedTest) = .accepted
      (member "quantity" .isIn [.bool true, .int 1, .float (.finite false 4503599627370496 1022), .text "1"]) := by
    rfl
  obtain ⟨accepts, keeps⟩ := grammar (.record Trial.mixedTest)
  exact ⟨read, accepts.1 ⟨_, read⟩, keeps _ read⟩

/-- A text that is not empty is not always the name of a field: the one that is half of a pair is refused, although it
would be of the grammar. -/
theorem grammar_refuses_half :
    ¬ ((∃ condition, check (.record Trial.halfField) = .accepted condition) ↔
      Grammatical (fun s => s ≠ "") (.record Trial.halfField)) := by
  intro same
  have grammatical : Grammatical (fun s => s ≠ "") (.record Trial.halfField) :=
    .compare .equals (fun _ => Iff.rfl) rfl (by decide) rfl rfl rfl
  obtain ⟨condition, read⟩ := same.2 grammatical
  have named : Fields.get? Trial.halfField "field" = some (.text (Text.ofCodes [0xd800])) := rfl
  have half : Text.hasHalf (Text.ofCodes [0xd800]) = true := by decide
  cases (check_sound read).1 with
  | compare _ _ known proper =>
      obtain rfl := Value.text.inj (Option.some.inj (known.symm.trans named))
      exact absurd proper.2 (by simp [half])
  | member _ _ known proper =>
      obtain rfl := Value.text.inj (Option.some.inj (known.symm.trans named))
      exact absurd proper.2 (by simp [half])

end Condition

end Countersign
