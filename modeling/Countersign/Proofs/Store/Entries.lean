/-
Module: Countersign.Proofs.Store.Entries
Purpose: Tables whose documents keep the entries of a list, and what their unique keys then mean.
Main exports: split_of_mem, related_replace, Table.holders_le_one_iff, Keyed, Keyed.insert_cases,
  Keyed.changeOne_cases
-/
import Countersign.Proofs.Store.Tables
import Mathlib.Data.List.Forall2
import Mathlib.Data.List.Nodup

namespace Countersign

/-!
A table that keeps entries has one document for each of them, in the same order. Where the keys of the table are texts
of the entries, it takes a document exactly when its entry shares none of these texts with another one.
-/

/-! ### Entries that share nothing -/

section Apart

variable {α : Type} {f : α → String} {entries front back : List α} {a b : α}

/-- What an entry has alone no other entry has. -/
theorem ne_of_nodup (nodup : ((front ++ a :: back).map f).Nodup) :
    ∀ other ∈ front ++ back, f other ≠ f a := by
  intro other within same
  rw [List.map_append, List.map_cons, List.nodup_middle, List.nodup_cons, ← List.map_append] at nodup
  exact nodup.1 (same ▸ List.mem_map_of_mem within)

/-- An entry may be replaced by one that has something alone. -/
theorem nodup_replace (nodup : ((front ++ a :: back).map f).Nodup)
    (alone : ∀ other ∈ front ++ back, f other ≠ f b) : ((front ++ b :: back).map f).Nodup := by
  rw [List.map_append, List.map_cons, List.nodup_middle, List.nodup_cons, ← List.map_append] at nodup ⊢
  refine ⟨?_, nodup.2⟩
  intro shared
  obtain ⟨other, within, same⟩ := List.mem_map.mp shared
  exact alone other within same

/-- An entry that has something alone may be put behind all others. -/
theorem nodup_concat (nodup : (entries.map f).Nodup) (alone : ∀ other ∈ entries, f other ≠ f a) :
    ((entries ++ [a]).map f).Nodup := by
  rw [List.map_append, List.map_singleton, List.nodup_append]
  refine ⟨nodup, by simp, ?_⟩
  intro key within other same
  obtain ⟨earlier, inside, rfl⟩ := List.mem_map.mp within
  rw [List.mem_singleton.mp same]
  exact alone earlier inside

end Apart

/-! ### Entries and their documents -/

section Related

variable {α : Type} {shows : α → Document → Prop}

/-- An entry has a document, at the same place. -/
theorem split_of_mem {entries : List α} {documents : List Document}
    (related : List.Forall₂ shows entries documents) {a : α} (member : a ∈ entries) :
    ∃ front back before document behind,
      entries = front ++ a :: back ∧ documents = before ++ document :: behind ∧
        List.Forall₂ shows front before ∧ shows a document ∧ List.Forall₂ shows back behind := by
  induction related with
  | nil => cases member
  | @cons head document rest others here behind ih =>
      rcases List.mem_cons.mp member with rfl | later
      · exact ⟨[], rest, [], document, others, rfl, rfl, .nil, here, behind⟩
      · obtain ⟨front, back, before, found, after, rfl, rfl, inFront, shown, inBack⟩ := ih later
        exact ⟨head :: front, back, document :: before, found, after, rfl, rfl,
          .cons here inFront, shown, inBack⟩

/-- A document has an entry, at the same place. -/
theorem split_of_documents {entries : List α} {before behind : List Document} {document : Document}
    (related : List.Forall₂ shows entries (before ++ document :: behind)) :
    ∃ front a back, entries = front ++ a :: back ∧
      List.Forall₂ shows front before ∧ shows a document ∧ List.Forall₂ shows back behind := by
  induction before generalizing entries with
  | nil =>
      cases related with
      | @cons a _ back _ here others => exact ⟨[], a, back, rfl, .nil, here, others⟩
  | cons first before ih =>
      cases related with
      | @cons head _ rest _ here others =>
          obtain ⟨front, a, back, rfl, inFront, shown, inBack⟩ := ih others
          exact ⟨head :: front, a, back, rfl, .cons here inFront, shown, inBack⟩

/-- A document keeps an entry. -/
theorem exists_of_mem_documents {entries : List α} {documents : List Document}
    (related : List.Forall₂ shows entries documents) {document : Document}
    (member : document ∈ documents) : ∃ a ∈ entries, shows a document := by
  induction related with
  | nil => cases member
  | @cons head first rest others here behind ih =>
      rcases List.mem_cons.mp member with rfl | later
      · exact ⟨head, by simp, here⟩
      · obtain ⟨a, within, shown⟩ := ih later
        exact ⟨a, List.mem_cons_of_mem _ within, shown⟩

/-- An entry in one place of a list whose documents are known may be replaced together with its document. -/
theorem related_replace {front back : List α} {before behind : List Document} {a : α}
    {document : Document} (inFront : List.Forall₂ shows front before) (here : shows a document)
    (inBack : List.Forall₂ shows back behind) :
    List.Forall₂ shows (front ++ a :: back) (before ++ document :: behind) :=
  List.rel_append inFront (.cons here inBack)

/-- How many documents have a text in a field that keeps a text of their entries. -/
theorem holders_eq {entries : List α} {documents : List Document} {name : String} {f : α → String}
    (related : List.Forall₂ shows entries documents)
    (keeps : ∀ {a document}, shows a document → Fields.get? document name = some (.text (f a)))
    (s : String) :
    Table.holders documents name s = (entries.filter fun a => f a == s).length := by
  unfold Table.holders
  induction related with
  | nil => rfl
  | @cons a document _ _ here behind ih =>
      have known : Document.meets document name (.text s) = (f a == s) := by
        simp only [Document.meets, Fields.getD, keeps here, Option.getD_some, Value.meets_text]
      simp only [List.filter_cons, known]
      split <;> simp [ih]

/-- A document has a text alone exactly when no other entry has that text. -/
theorem Table.holders_le_one_iff {front back : List α} {a : α} {documents : List Document}
    {name : String} {f : α → String}
    (related : List.Forall₂ shows (front ++ a :: back) documents)
    (keeps : ∀ {a document}, shows a document → Fields.get? document name = some (.text (f a))) :
    Table.holders documents name (f a) ≤ 1 ↔ ∀ other ∈ front ++ back, f other ≠ f a := by
  rw [holders_eq related keeps]
  have none (others : List α) :
      (others.filter fun other => f other == f a).length = 0 ↔ ∀ other ∈ others, f other ≠ f a := by
    simp [List.length_eq_zero_iff, List.filter_eq_nil_iff]
  have count : ((front ++ a :: back).filter fun other => f other == f a).length =
      (front.filter fun other => f other == f a).length
        + ((back.filter fun other => f other == f a).length + 1) := by
    simp [List.filter_append]
  rw [count]
  constructor
  · intro few other within
    rcases List.mem_append.mp within with early | late
    · exact (none front).1 (by omega) other early
    · exact (none back).1 (by omega) other late
  · intro alone
    have early := (none front).2 fun other within => alone other (List.mem_append_left _ within)
    have late := (none back).2 fun other within => alone other (List.mem_append_right _ within)
    omega

end Related

/-! ### Unique keys of entries -/

/-- The documents of entries are stored under the ids of the entries, and have a text of the entry in each of some
fields. -/
structure Keyed {α : Type} (shows : α → Document → Prop) (id : α → String) (keys : List (String × (α → String))) :
    Prop where
  identity : ∀ {a document}, shows a document → Fields.get? document Document.identity = some (.text (id a))
  texts : ∀ {a document}, shows a document → ∀ key ∈ keys, Fields.get? document key.1 = some (.text (key.2 a))
  unique : ∃ key ∈ keys, key.2 = id

namespace Keyed

variable {α : Type} {shows : α → Document → Prop} {id : α → String} {keys : List (String × (α → String))}
  {entries front back : List α} {a b : α} {document after : Document} {table before behind : List Document}

theorem hasTexts (keyed : Keyed shows id keys) (here : shows a document) :
    Table.HasTexts document (keys.map Prod.fst) := by
  rw [Table.HasTexts, List.forall_mem_map]
  exact fun key member => ⟨_, keyed.texts here key member⟩

/-- The keys of a document are free exactly when no other entry shares one of them. -/
theorem keysFree_iff (keyed : Keyed shows id keys) (related : List.Forall₂ shows (front ++ a :: back) table)
    (here : shows a document) :
    Table.KeysFree table document (keys.map Prod.fst) ↔
      ∀ other ∈ front ++ back, ∀ key ∈ keys, key.2 other ≠ key.2 a := by
  have alone : ∀ key ∈ keys, Table.holders table key.1 (key.2 a) ≤ 1 ↔ ∀ other ∈ front ++ back, key.2 other ≠ key.2 a :=
    fun key member => Table.holders_le_one_iff related fun shown => keyed.texts shown key member
  rw [Table.KeysFree, List.forall_mem_map]
  constructor
  · intro free other within key member
    exact (alone key member).1 (free key member _ (keyed.texts here key member)) other within
  · intro apart key member s found
    rw [keyed.texts here key member] at found
    cases found
    exact (alone key member).2 fun other within => apart other within key member

theorem sameOrMissing_iff (keyed : Keyed shows id keys) (first : shows a document) (second : shows b after) :
    Document.sameOrMissing (Fields.get? document Document.identity) (Fields.get? after Document.identity) = true ↔
      id a = id b := by
  rw [keyed.identity first, keyed.identity second]
  simp [Document.sameOrMissing, Value.same, Value.sameLeaf]

/-- Another document has the identity of a document only where its entry has the same id. -/
theorem exists_of_sameIdentity (keyed : Keyed shows id keys) (related : List.Forall₂ shows entries table)
    (here : shows a document) (known : table.any (Document.sameIdentity document) = true) :
    ∃ other ∈ entries, id other = id a := by
  obtain ⟨found, member, same⟩ := List.any_eq_true.1 known
  obtain ⟨other, within, there⟩ := exists_of_mem_documents related member
  rw [Document.sameIdentity, Bool.and_eq_true, keyed.sameOrMissing_iff here there] at same
  exact ⟨other, within, same.2.symm⟩

/-- A document that the store takes is put behind all others, or refused because another entry shares a key. -/
theorem insert_cases (keyed : Keyed shows id keys) (related : List.Forall₂ shows entries table)
    (admitted : document.admissionFault? = none) (here : shows a document.kept) :
    ((∃ other ∈ entries, ∃ key ∈ keys, key.2 other = key.2 a) ∧
      Table.insert (keys.map Prod.fst) table document = ⟨table, some .keyTaken⟩) ∨
    ((∀ other ∈ entries, ∀ key ∈ keys, key.2 other ≠ key.2 a) ∧
      List.Forall₂ shows (entries ++ [a]) (table ++ [document.kept]) ∧
      Table.insert (keys.map Prod.fst) table document = ⟨table ++ [document.kept], none⟩) := by
  have grown : List.Forall₂ shows (entries ++ [a]) (table ++ [document.kept]) := related_replace related here .nil
  have free_iff := keyed.keysFree_iff grown here
  rw [List.append_nil] at free_iff
  rcases Table.insert_cases table admitted (keyed.hasTexts here) with ⟨taken, made⟩ | ⟨free, made⟩
  · refine Or.inl ⟨?_, made⟩
    rcases taken with known | shared
    · obtain ⟨other, within, same⟩ := keyed.exists_of_sameIdentity related here known
      obtain ⟨key, member, rfl⟩ := keyed.unique
      exact ⟨other, within, key, member, same⟩
    · rw [free_iff] at shared
      push Not at shared
      exact shared
  · exact Or.inr ⟨free_iff.1 free, grown, made⟩

/-- A change that keeps the id of an entry is made, or refused because another entry shares a key. -/
theorem changeOne_cases (keyed : Keyed shows id keys) {change : Change} (inFront : List.Forall₂ shows front before)
    (inBack : List.Forall₂ shows back behind) (old : shows a document) (new : shows b after) (same : id b = id a)
    (made : change document = ⟨after, none⟩) :
    ((∀ other ∈ front ++ back, ∀ key ∈ keys, key.2 other ≠ key.2 b) ∧
      Table.changeOne (keys.map Prod.fst) change before document behind =
        .changed document after (before ++ after :: behind)) ∨
    ((∃ other ∈ front ++ back, ∃ key ∈ keys, key.2 other = key.2 b) ∧
      Table.changeOne (keys.map Prod.fst) change before document behind =
        .refused .keyTaken (before ++ document :: behind)) := by
  have free_iff := keyed.keysFree_iff (related_replace inFront new inBack) new
  rcases Table.changeOne_cases before behind made ((keyed.sameOrMissing_iff old new).2 same.symm)
    (keyed.hasTexts new) with ⟨free, changed⟩ | ⟨taken, refused⟩
  · exact Or.inl ⟨free_iff.1 free, changed⟩
  · rw [free_iff] at taken
    push Not at taken
    exact Or.inr ⟨taken, refused⟩

end Keyed

end Countersign
