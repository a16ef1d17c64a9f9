/-
Module: Countersign.Proofs.Store.Documents
Purpose: What is read from documents that were changed, and what queries for texts tell of them.
Main exports: Fields.get?_put, Fields.get?_putAll_congr, Fields.putAll_of_get?, Fields.get?_storedFields,
  Change.setAll_eq, Change.setAll_cases, Change.get?_putAll_storedFields, Change.Spares, Change.assignAll_eq_setAll,
  Document.valuePrecedes_int, Document.valuePrecedes_moment, Document.valuePrecedes_text,
  Document.admissionFault?_ne_keyTaken, Query.Decides, Query.decides_text
-/
import Countersign.Store.Table

namespace Countersign

/-!
A change that gives fields storable values does so for all of them and stops nowhere, so what is read from
the changed document is known field by field. A query for a text never fails, and whether a document meets
it hangs on one field alone.
-/

namespace Fields

/-- What is read after one field was put. -/
theorem get?_put (fields : Fields) (name other : String) (value : Value) :
    (fields.put name value).get? other = if name = other then some value else fields.get? other := by
  by_cases same : name = other
  · subst same
    rw [get?_put_self, if_pos rfl]
  · rw [get?_put_of_ne fields value same, if_neg same]

/-- A field that is missing is put at the end. -/
theorem put_of_missing {fields : Fields} {name : String} (missing : fields.has name = false) (value : Value) :
    fields.put name value = fields ++ [(name, value)] := by
  induction fields with
  | nil => rfl
  | cons field rest ih =>
      obtain ⟨key, old⟩ := field
      by_cases same : key = name
      · simp [has, same] at missing
      · simp only [has, get?_cons, if_neg same] at missing
        rw [put, if_neg same, ih missing]
        rfl

theorem has_iff {fields : Fields} {name : String} : fields.has name = true ↔ name ∈ fields.names := by
  induction fields with
  | nil => simp [has, names]
  | cons field rest ih =>
      obtain ⟨key, value⟩ := field
      by_cases same : key = name
      · simp [has, names, same]
      · have different : ¬ name = key := fun equal => same equal.symm
        simpa [has, names, same, different] using ih

theorem get?_eq_none_iff {fields : Fields} {name : String} : fields.get? name = none ↔ name ∉ fields.names := by
  rw [← has_iff, has, Option.not_isSome_iff_eq_none]

/-- A name that is read is a name of the record. -/
theorem mem_names_of_get? {fields : Fields} {name : String} {v : Value} (found : fields.get? name = some v) :
    name ∈ fields.names := has_iff.1 (by rw [has, found]; rfl)

/-- Fields that are not among updates stay as they are. -/
theorem get?_putAll_of_missing (fields : Fields) {updates : Fields} {name : String}
    (missing : updates.has name = false) : (fields.putAll updates).get? name = fields.get? name := by
  induction updates generalizing fields with
  | nil => rfl
  | cons field rest ih =>
      obtain ⟨key, value⟩ := field
      have other : key ≠ name := by
        rintro rfl
        simp [has] at missing
      simp only [has, get?_cons, if_neg other] at missing
      rw [putAll, List.foldl_cons]
      exact (ih _ missing).trans (get?_put_of_ne fields value other)

/-- Updates make the same of two records in each field that is the same in both, or that they have. -/
theorem get?_putAll_congr {fields others : Fields} {updates : Fields} {name : String}
    (alike : updates.has name = false → others.get? name = fields.get? name) :
    (others.putAll updates).get? name = (fields.putAll updates).get? name := by
  induction updates generalizing fields others with
  | nil => exact alike rfl
  | cons field rest ih =>
      obtain ⟨key, value⟩ := field
      refine ih fun missing => ?_
      rw [get?_put, get?_put]
      by_cases same : key = name
      · rw [if_pos same, if_pos same]
      · rw [if_neg same, if_neg same]
        exact alike (by simpa [has, same] using missing)

/-- Putting what a field has changes nothing. -/
theorem put_of_get? {fields : Fields} {name : String} {value : Value} (here : fields.get? name = some value) :
    fields.put name value = fields := by
  induction fields with
  | nil => cases here
  | cons field rest ih =>
      obtain ⟨key, old⟩ := field
      by_cases same : key = name
      · rw [get?_cons, if_pos same] at here
        rw [put, if_pos same, same, Option.some.inj here]
      · rw [get?_cons, if_neg same] at here
        rw [put, if_neg same, ih here]

theorem putAll_of_get? {fields updates : Fields} (here : ∀ field ∈ updates, fields.get? field.1 = some field.2) :
    fields.putAll updates = fields := by
  induction updates with
  | nil => rfl
  | cons field rest ih =>
      obtain ⟨first, others⟩ := List.forall_mem_cons.1 here
      have onward : fields.putAll (field :: rest) = (fields.put field.1 field.2).putAll rest := rfl
      rw [onward, put_of_get? first, ih others]

/-- A field is among those of some names where its name is one of them. -/
theorem has_filter (fields : Fields) (p : String → Bool) (name : String) :
    has (fields.filter fun (name, _) => p name) name = (p name && fields.has name) := by
  induction fields with
  | nil => simp [has]
  | cons field rest ih =>
      obtain ⟨key, value⟩ := field
      by_cases same : key = name
      · subst same
        cases wanted : p key with
        | true => simp [has, wanted]
        | false => simpa [wanted] using ih
      · cases wanted : p key with
        | true => simpa [has, wanted, same] using ih
        | false => simpa [has, wanted, same] using ih

/-- What is read from a record as the store keeps it. -/
theorem get?_storedFields (fields : Fields) (name : String) :
    Fields.get? (Value.storedFields fields) name = (fields.get? name).map Value.stored := by
  induction fields with
  | nil => rfl
  | cons field rest ih =>
      obtain ⟨key, value⟩ := field
      by_cases same : key = name
      · simp [Value.storedFields, same]
      · simp [Value.storedFields, same, ih]

/-- Putting what a record has as the store keeps it changes nothing. -/
theorem putAll_storedFields {fields updates : Fields}
    (here : ∀ field ∈ updates, fields.get? field.1 = some field.2.stored) :
    fields.putAll (Value.storedFields updates) = fields := by
  have each : Value.storedFields updates = updates.map fun field => (field.1, field.2.stored) := by
    clear here
    induction updates with
    | nil => rfl
    | cons field rest ih => rw [List.map_cons, ← ih, Value.storedFields]
  apply putAll_of_get?
  rw [each, List.forall_mem_map]
  exact here

/-- What is read from a record is one of its fields. -/
theorem mem_of_get? {fields : Fields} {name : String} {value : Value} (found : fields.get? name = some value) :
    (name, value) ∈ fields := by
  induction fields with
  | nil => cases found
  | cons field rest ih =>
      obtain ⟨key, kept⟩ := field
      rw [get?_cons] at found
      split at found
      · next same => simp [same, Option.some.inj found]
      · exact List.mem_cons_of_mem _ (ih found)

/-- Where no two fields share a name, each field is read. -/
theorem get?_of_mem {fields : Fields} (unique : fields.names.Nodup) {field : String × Value} (member : field ∈ fields) :
    fields.get? field.1 = some field.2 := by
  induction fields with
  | nil => cases member
  | cons head rest ih =>
      obtain ⟨alone, others⟩ := List.nodup_cons.1 unique
      rcases List.mem_cons.1 member with rfl | later
      · exact if_pos rfl
      · have apart : head.1 ≠ field.1 := fun same => alone (List.mem_map.2 ⟨field, later, same.symm⟩)
        exact (if_neg apart).trans (ih others later)

/-- What is read from two records, one in front of the other. -/
theorem get?_append (front back : Fields) (name : String) :
    Fields.get? (front ++ back) name = (front.get? name).or (back.get? name) := by
  induction front with
  | nil => rfl
  | cons field rest ih =>
      obtain ⟨key, value⟩ := field
      by_cases same : key = name
      · simp [same]
      · simp [same, ih]

end Fields

namespace Change

/-- Why the store does not keep one of several fields, if it does not. -/
def StorableAll (updates : Fields) : Prop :=
  ∀ field ∈ updates, Document.fieldFault? field.1 field.2 = none

/-- Giving fields storable values stops nowhere. -/
theorem setAll_eq {updates : Fields} (storable : StorableAll updates) (document : Document) :
    setAll updates document = ⟨Fields.putAll document (Value.storedFields updates), none⟩ := by
  induction updates generalizing document with
  | nil => rfl
  | cons field rest ih =>
      obtain ⟨name, value⟩ := field
      have first : Document.fieldFault? name value = none := storable (name, value) (by simp)
      have others : StorableAll rest := fun other within =>
        storable other (List.mem_cons_of_mem _ within)
      simp only [setAll, andThen, set, first]
      rw [ih others]
      rfl

/-- Giving fields values stops at the first value that is not storable, with those in front of it given. -/
theorem setAll_cases (updates : Fields) (document : Document) :
    (StorableAll updates ∧
      setAll updates document = ⟨Fields.putAll document (Value.storedFields updates), none⟩) ∨
    ∃ given name v rest fault, updates = given ++ (name, v) :: rest ∧ StorableAll given ∧
      Document.fieldFault? name v = some fault ∧
      setAll updates document = ⟨Fields.putAll document (Value.storedFields given), some fault⟩ := by
  induction updates generalizing document with
  | nil => exact Or.inl ⟨by simp [StorableAll], rfl⟩
  | cons field rest ih =>
      obtain ⟨name, v⟩ := field
      cases first : Document.fieldFault? name v with
      | some fault =>
          refine Or.inr ⟨[], name, v, rest, fault, rfl, by simp [StorableAll], first, ?_⟩
          simp only [setAll, andThen, set, first]
          rfl
      | none =>
          have onward : setAll ((name, v) :: rest) document = setAll rest (Fields.put document name v.stored) := by
            simp only [setAll, andThen, set, first]
          rcases ih (Fields.put document name v.stored) with
            ⟨storable, made⟩ | ⟨given, other, w, behind, fault, rfl, storable, refused, stopped⟩
          · exact Or.inl ⟨List.forall_mem_cons.2 ⟨first, storable⟩, onward.trans made⟩
          · exact Or.inr ⟨(name, v) :: given, other, w, behind, fault, rfl,
              List.forall_mem_cons.2 ⟨first, storable⟩, refused, onward.trans stopped⟩

/-- What is read after fields of a record were given: those that were given are as in the record, the others as they
were. -/
theorem get?_putAll_storedFields {given whole : Fields}
    (offered : ∀ field ∈ given, whole.get? field.1 = some field.2) (document : Document) (name : String) :
    Fields.get? (Fields.putAll document (Value.storedFields given)) name =
      if given.has name then (whole.get? name).map Value.stored else Fields.get? document name := by
  induction given generalizing document with
  | nil => rfl
  | cons field rest ih =>
      obtain ⟨key, v⟩ := field
      obtain ⟨here, others⟩ := List.forall_mem_cons.1 offered
      have onward : Fields.putAll document (Value.storedFields ((key, v) :: rest)) =
          Fields.putAll (Fields.put document key v.stored) (Value.storedFields rest) := rfl
      rw [onward, ih others, Fields.get?_put]
      by_cases same : key = name
      · subst same
        simp [Fields.has, here]
      · simp [Fields.has, same]

end Change

/-! ### What a change leaves alone -/

/-- A change that leaves a field as it is, however far it comes. -/
def Change.Spares (change : Change) (name : String) : Prop :=
  ∀ document, Fields.get? (change document).document name = Fields.get? document name

namespace Change.Spares

variable {name other : String}

theorem andThen {first second : Change} (one : first.Spares name) (two : second.Spares name) :
    (first.andThen second).Spares name := by
  intro document
  unfold Change.andThen
  dsimp only
  split
  · exact one document
  · exact (two _).trans (one document)

theorem set {v : Value} (different : other ≠ name) : (set other v).Spares name := by
  intro document
  unfold Change.set
  split
  · rfl
  · rw [Fields.get?_put, if_neg different]

theorem setAll {updates : Fields} (missing : name ∉ updates.names) : (setAll updates).Spares name := by
  induction updates with
  | nil => exact fun document => rfl
  | cons field rest ih =>
      rw [Fields.names, List.map_cons, List.mem_cons, not_or] at missing
      exact (set (Ne.symm missing.1)).andThen (ih missing.2)

theorem increment (different : other ≠ name) : (increment other).Spares name := by
  intro document
  unfold Change.increment
  split
  · rw [Fields.get?_put, if_neg different]
  · rfl

end Change.Spares

/-! ### Names that are no paths -/

namespace Change

/-- A name that is no path, and holds no place to be found. -/
def PlainName (name : String) : Prop := '.' ∉ name.toList ∧ '$' ∉ name.toList

instance (name : String) : Decidable (PlainName name) := inferInstanceAs (Decidable (_ ∧ _))

/-- Under a plain name a value is put into the field of that name. -/
theorem assign_plain {name : String} (plain : PlainName name) (wanted : Fields) (v : Value)
    (document : Document) :
    ({ document := .record document } : Finding).assign wanted name v =
      ({ document := .record (set name v document).document }, (set name v document).stopped) := by
  obtain ⟨whole, still⟩ := plain
  have first : ({ document := .record document } : Finding).assign wanted name v =
      ({ document := .record document } : Finding).alter (.inside []) (v.assign [name]) := by
    unfold Finding.assign
    simp [Text.pathParts_of_plain whole, still]
  rw [first]
  simp only [Finding.alter, Spot.alter, Value.alterAt, Value.assign, Value.give, set]
  cases Document.fieldFault? name v <;> rfl

/-- Where all names are plain, values are put into the fields of the names. -/
theorem assignAll_eq_setAll {updates : Fields} (plain : ∀ field ∈ updates, PlainName field.1)
    (wanted : Fields) : assignAll wanted updates = setAll updates := by
  have through (document : Document) :
      ({ document := .record document } : Finding).assignAll wanted updates =
        ({ document := .record (setAll updates document).document }, (setAll updates document).stopped) := by
    induction updates generalizing document with
    | nil => rfl
    | cons field rest ih =>
        obtain ⟨name, v⟩ := field
        obtain ⟨here, others⟩ := List.forall_mem_cons.1 plain
        rw [Finding.assignAll, assign_plain here, setAll, andThen]
        cases stopped : (set name v document).stopped with
        | none => exact ih others _
        | some fault => simp only [stopped]
  funext document
  simp only [assignAll, through]

end Change

/-! ### Values and texts -/

@[simp] theorem Value.meets_text (s wanted : String) :
    (Value.text s).meets (.text wanted) = (s == wanted) := by
  simp [Value.meets, Value.same, Value.sameLeaf]

@[simp] theorem Value.null_meets_text (wanted : String) :
    Value.null.meets (.text wanted) = false := by
  simp [Value.meets, Value.same, Value.sameLeaf]

@[simp] theorem Value.ofText?_meets_text (found : Option String) (wanted : String) :
    (Value.ofText? found).meets (.text wanted) = (found == some wanted) := by
  cases found with
  | none => simp [Value.ofText?]
  | some s => simp [Value.ofText?]

@[simp] theorem Value.meets_bool (b wanted : Bool) : (Value.bool b).meets (.bool wanted) = (b == wanted) := by
  simp [Value.meets, Value.same, Value.sameLeaf]

namespace Document

/-! ### Values to sort by -/

theorem compare_lt_eq (m n : Int) : (some (compare m n) == some Ordering.lt) = decide (m < n) := by
  rcases Int.lt_trichotomy m n with less | same | more
  · simp [compare, compareOfLessAndEq, less]
  · simp [compare, compareOfLessAndEq, same]
  · simp [compare, compareOfLessAndEq, Int.not_lt.2 (Int.le_of_lt more), Int.ne_of_gt more]

@[simp] theorem valuePrecedes_int (m n : Int) : valuePrecedes (.int m) (.int n) = decide (m < n) := compare_lt_eq m n

@[simp] theorem valuePrecedes_moment (m n : Moment) :
    valuePrecedes (.moment m) (.moment n) = decide (m.utc < n.utc) := compare_lt_eq m.utc n.utc

@[simp] theorem valuePrecedes_text (s t : String) : valuePrecedes (.text s) (.text t) = (Text.order s t == .lt) := rfl

/-! ### Names and values that are kept -/

/-- A name under which the store keeps fields. -/
def NameKept (name : String) : Prop := Filter.isWord name = false ∧ Value.nameFault? name = none

/-- Under a name that is kept a field is storable as its value is. -/
theorem fieldFault?_of_nameKept {name : String} (kept : NameKept name) (v : Value) :
    fieldFault? name v = v.storeFault? := by
  simp [fieldFault?, kept.1, kept.2]

instance (name : String) : Decidable (NameKept name) := inferInstanceAs (Decidable (_ ∧ _))

/-- The names of what changes in a stored request or ticket. -/
theorem nameKept_of_mem {name : String}
    (known : name ∈ ["status", "updated_at", "active_key", "decided_at", "locked_by",
      "lock_expires_at"]) : NameKept name := by
  have all : ∀ name ∈ ["status", "updated_at", "active_key", "decided_at", "locked_by",
      "lock_expires_at"], NameKept name := by decide +kernel
  exact all name known

end Document

theorem Value.storeFault?_text_iff {s : String} : (Value.text s).storeFault? = none ↔ Text.hasHalf s = false := by
  simp [storeFault?]

/-- The store keeps a list of texts when it keeps each of them. -/
theorem Value.storeFault?_ofTexts_iff {names : List String} :
    (Value.ofTexts names).storeFault? = none ↔ ∀ name ∈ names, Text.hasHalf name = false := by
  change itemsStoreFault? (names.map .text) = none ↔ _
  induction names with
  | nil => simp [itemsStoreFault?]
  | cons name rest ih =>
      rw [List.map_cons, itemsStoreFault?, Option.or_eq_none_iff, storeFault?_text_iff, ih, List.forall_mem_cons]

/-- The store keeps a record when it keeps each name and each value of it. -/
theorem Value.storeFault?_record_iff {fields : Fields} :
    (Value.record fields).storeFault? = none ↔
      ∀ field ∈ fields, nameFault? field.1 = none ∧ field.2.storeFault? = none := by
  change fieldsStoreFault? fields = none ↔ _
  induction fields with
  | nil => simp [fieldsStoreFault?]
  | cons field rest ih =>
      obtain ⟨name, v⟩ := field
      rw [fieldsStoreFault?, Option.or_eq_none_iff, Option.or_eq_none_iff, ih, List.forall_mem_cons]

/-- Lists of texts have no moments in them. -/
theorem Value.stored_ofTexts (names : List String) : (Value.ofTexts names).stored = .ofTexts names := by
  have items : storedItems (names.map .text) = names.map .text := by
    induction names with
    | nil => rfl
    | cons name rest ih => simp [storedItems, stored, ih]
  simp [ofTexts, stored, items]

/-- The store keeps every field of a document that it takes. -/
theorem Document.storeFault?_of_admitted {document : Document} (name : String) {v : Value}
    (admitted : document.admissionFault? = none) (found : Fields.get? document name = some v) :
    v.storeFault? = none := by
  have storable : (Value.record document).storeFault? = none := by
    unfold admissionFault? at admitted
    split at admitted
    · cases admitted
    · exact (Option.or_eq_none_iff.1 admitted).1
  exact (Value.storeFault?_record_iff.1 storable (name, v) (Fields.mem_of_get? found)).2

/-- The store keeps what the clock of the service shows. -/
theorem Value.storeFault?_moment {time : Moment} (within : time.leavesCalendar = false) :
    (Value.moment time).storeFault? = none := by
  simp [Value.storeFault?, within]

/-- The clock of the service shows universal time, which no offset moves. -/
@[simp] theorem Moment.leavesCalendar_ofClock (clock : Int) :
    (Moment.ofClock clock).leavesCalendar = false := by
  simp [Moment.leavesCalendar, Moment.ofClock]

/-! ### Faults of values -/

namespace Value

mutual

/-- No value is refused because a key is taken. -/
theorem storeFault?_ne_keyTaken : ∀ v : Value, v.storeFault? ≠ some .keyTaken
  | .null => by simp [storeFault?]
  | .bool _ => by simp [storeFault?]
  | .int n => by simp only [storeFault?]; split <;> simp
  | .float _ => by simp [storeFault?]
  | .text s => by simp only [storeFault?]; split <;> simp
  | .date _ => by simp [storeFault?]
  | .moment m => by simp only [storeFault?]; split <;> simp
  | .list items => itemsStoreFault?_ne_keyTaken items
  | .record fields => fieldsStoreFault?_ne_keyTaken fields

theorem itemsStoreFault?_ne_keyTaken : ∀ items : List Value, itemsStoreFault? items ≠ some .keyTaken
  | [] => by simp [itemsStoreFault?]
  | v :: rest => by
      rw [itemsStoreFault?, Ne, Option.or_eq_some_iff]
      rintro (here | ⟨-, behind⟩)
      · exact storeFault?_ne_keyTaken v here
      · exact itemsStoreFault?_ne_keyTaken rest behind

theorem fieldsStoreFault?_ne_keyTaken :
    ∀ fields : List (String × Value), fieldsStoreFault? fields ≠ some .keyTaken
  | [] => by simp [fieldsStoreFault?]
  | (name, v) :: rest => by
      rw [fieldsStoreFault?, Ne, Option.or_eq_some_iff, Option.or_eq_some_iff]
      rintro ((named | ⟨-, here⟩) | ⟨-, behind⟩)
      · unfold nameFault? at named
        split at named
        · cases named
        · split at named <;> cases named
      · exact storeFault?_ne_keyTaken v here
      · exact fieldsStoreFault?_ne_keyTaken rest behind

end

end Value

/-- No document is refused for itself because a key is taken. -/
theorem Document.admissionFault?_ne_keyTaken (document : Document) :
    document.admissionFault? ≠ some .keyTaken := by
  unfold admissionFault?
  split
  · simp
  · rw [Ne, Option.or_eq_some_iff]
    rintro (inside | ⟨-, identity⟩)
    · exact Value.fieldsStoreFault?_ne_keyTaken document inside
    · split at identity
      · split at identity <;> cases identity
      · cases identity

/-! ### Queries -/

namespace Query

/-- A query that never fails, and tells what a test tells. -/
def Decides (query : Query) (test : Document → Bool) : Prop :=
  ∀ document, query document = .ok (test document)

/-- A query for a text looks at one field. -/
theorem decides_text (name s : String) :
    Decides (field name (.text s)) fun document => document.meets name (.text s) :=
  fun document => field_text name s document

/-- A query for the value of a field, whose name is neither a path nor a word of filters, asks for that field alone. -/
theorem field_congr {name : String} (path : Text.pathParts name = [name]) (named : name ≠ "")
    (plain : Filter.isWord name = false) {one other : Document}
    (same : Fields.get? one name = Fields.get? other name) (wanted : Value) :
    field name wanted one = field name wanted other := by
  cases wanted with
  | record comparisons =>
      have reached : Filter.reachBy name (.record one) = Filter.reachBy name (.record other) := by
        simp [Filter.reachBy, path, Filter.reach, named, same]
      have apart : (name == "$expr") = false := by
        rw [beq_eq_false_iff_ne]
        rintro rfl
        cases plain
      simp only [field, Filter.query, Value.storedFields, Value.stored, Filter.meetsAll, Filter.meets, Filter.atHead,
        reached, apart]
      rfl
  | _ => simp [field, Document.meets, Fields.getD, same]

theorem Decides.both {first second : Query} {test other : Document → Bool}
    (one : Decides first test) (two : Decides second other) :
    Decides (both first second) fun document => test document && other document := by
  intro document
  simp only [Query.both, one document, two document]
  cases test document <;> rfl

end Query

end Countersign
