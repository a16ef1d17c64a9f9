/-
Module: Countersign.Proofs.Store.Tables
Purpose: What insertions and changes do to a table whose unique keys are texts.
Main exports: Table.find?_eq, Table.select_eq, Table.split_of_find?, Table.updateFirst_split,
  Table.uniqueFault?_cases, Table.insert_of_fault, Table.insert_cases, Table.alone_of_free, Table.find?_of_alone,
  Table.changeOne_cases, Table.changeOne_of_unique, Table.updateFirst_keeps
-/
import Countersign.Proofs.Store.Documents

namespace Countersign.Table

/-!
A query that decides picks documents as a filter of lists does. A change is made in the first document that
meets its query, with everything in front of it and behind it left alone. When the unique keys of a document
are texts, its insertion or change is refused exactly when another document has one of them.
-/

/-! ### Finding documents -/

theorem keepMet_eq {query : Query} {test : Document → Bool} (decides : query.Decides test)
    (documents : List Document) : keepMet query documents = .ok (List.filter test documents) := by
  induction documents with
  | nil => rfl
  | cons document rest ih =>
      simp only [keepMet, decides document, ih]
      cases met : test document <;> simp [met, bind, Except.bind, pure, Except.pure]

theorem filter_eq {query : Query} {test : Document → Bool} (decides : query.Decides test)
    (table : Table) : table.filter query = .ok (List.filter test table) := by
  unfold Table.filter
  rw [keepMet_eq decides]
  cases table with
  | nil => simp [decides [], bind, Except.bind]
  | cons document rest => rfl

theorem find?_eq {query : Query} {test : Document → Bool} (decides : query.Decides test)
    (table : Table) : table.find? query = .ok (List.find? test table) := by
  unfold Table.find?
  rw [filter_eq decides]
  exact congrArg Except.ok List.head?_filter

theorem select_eq {query : Query} {test : Document → Bool} (decides : query.Decides test)
    (table : Table) (keys : List SortKey) :
    table.select query keys =
      .ok ((List.filter test table).mergeSort (Document.noLaterThan keys)) := by
  unfold Table.select
  rw [filter_eq decides]
  rfl

/-- What a query keeps first is the first document that meets it. -/
theorem split_of_keepMet {query : Query} {documents found : List Document} {document : Document}
    (kept : keepMet query documents = .ok (document :: found)) :
    ∃ front back, documents = front ++ document :: back ∧
      (∀ other ∈ front, query other = .ok false) ∧ query document = .ok true := by
  induction documents generalizing found with
  | nil => cases kept
  | cons head rest ih =>
      cases met : query head with
      | error fault => simp [keepMet, met, bind, Except.bind] at kept
      | ok holds =>
          cases others : keepMet query rest with
          | error fault => simp [keepMet, met, others, bind, Except.bind] at kept
          | ok keptRest =>
              cases holds with
              | true =>
                  simp [keepMet, met, others, bind, Except.bind, pure, Except.pure] at kept
                  obtain ⟨rfl, -⟩ := kept
                  exact ⟨[], rest, rfl, by simp, met⟩
              | false =>
                  simp [keepMet, met, others, bind, Except.bind, pure, Except.pure] at kept
                  subst kept
                  obtain ⟨front, back, rfl, before, here⟩ := ih others
                  refine ⟨head :: front, back, rfl, ?_, here⟩
                  intro other within
                  rcases List.mem_cons.mp within with rfl | behind
                  · exact met
                  · exact before other behind

/-- A document that was found is the first that meets the query. -/
theorem split_of_find? {query : Query} {table : Table} {document : Document}
    (found : table.find? query = .ok (some document)) :
    ∃ front back, table = front ++ document :: back ∧
      (∀ other ∈ front, query other = .ok false) ∧ query document = .ok true := by
  unfold Table.find? Table.filter at found
  cases table with
  | nil =>
      cases empty : query [] with
      | error fault =>
          rw [empty] at found
          cases found
      | ok met =>
          rw [empty] at found
          cases found
  | cons head rest =>
      cases kept : keepMet query (head :: rest) with
      | error fault =>
          rw [kept] at found
          cases found
      | ok documents =>
          rw [kept] at found
          have first : documents.head? = some document := Except.ok.inj found
          cases documents with
          | nil => cases first
          | cons other others =>
              obtain rfl : other = document := Option.some.inj first
              exact split_of_keepMet kept

/-- Documents that do not meet a query are passed over. -/
theorem keepMet_passed {query : Query} {front : List Document} (passed : ∀ other ∈ front, query other = .ok false)
    (documents : List Document) : keepMet query (front ++ documents) = keepMet query documents := by
  induction front with
  | nil => rfl
  | cons head rest ih =>
      obtain ⟨here, others⟩ := List.forall_mem_cons.1 passed
      rw [List.cons_append, keepMet, here, ih others]
      cases keepMet query documents <;> rfl

/-- The first document that meets a query is still found when it is another one of which the query tells the same. -/
theorem find?_replace {query : Query} {front back : List Document} {document after : Document}
    (passed : ∀ other ∈ front, query other = .ok false) (met : query document = .ok true)
    (alike : query after = query document) (found : find? (front ++ document :: back) query = .ok (some document)) :
    find? (front ++ after :: back) query = .ok (some after) := by
  have filled (here : Document) : filter (front ++ here :: back) query = keepMet query (here :: back) := by
    rw [filter, if_neg (by simp), keepMet_passed passed]
  rw [find?, filled, keepMet, met] at found
  rw [find?, filled, keepMet, alike, met]
  cases others : keepMet query back with
  | error fault =>
      rw [others] at found
      cases found
  | ok rest => rfl

theorem length_keepMet_cons (query : Query) (head : Document) (rest : List Document) :
    (keepMet query (head :: rest)).map List.length =
      (query head).bind fun met =>
        ((keepMet query rest).map List.length).map fun size => if met then size + 1 else size := by
  rw [keepMet]
  cases query head with
  | error fault => rfl
  | ok met => cases keepMet query rest <;> cases met <;> rfl

/-- As many documents meet a query when one of them is another one of which the query tells the same. -/
theorem length_keepMet_replace {query : Query} {document after : Document} (alike : query after = query document)
    (front back : List Document) :
    (keepMet query (front ++ after :: back)).map List.length =
      (keepMet query (front ++ document :: back)).map List.length := by
  induction front with
  | nil => rw [List.nil_append, List.nil_append, length_keepMet_cons, length_keepMet_cons, alike]
  | cons head rest ih => rw [List.cons_append, List.cons_append, length_keepMet_cons, length_keepMet_cons, ih]

/-! ### Changing documents -/

theorem updateAfter_split {query : Query} {front back passed : List Document} {document : Document}
    (before : ∀ other ∈ front, query other = .ok false) (here : query document = .ok true)
    (uniqueKeys : List String) (change : Change) :
    updateAfter uniqueKeys query change passed (front ++ document :: back) =
      .ok (changeOne uniqueKeys change (passed ++ front) document back) := by
  induction front generalizing passed with
  | nil => simp [updateAfter, here, bind, Except.bind, pure, Except.pure]
  | cons head rest ih =>
      have first := before head (by simp)
      have others := @ih (passed ++ [head])
        fun other within => before other (List.mem_cons_of_mem _ within)
      simp only [List.cons_append, updateAfter, first, bind, Except.bind]
      simpa using others

/-- A change is made in the first document that meets the query. -/
theorem updateFirst_split {query : Query} {front back : List Document} {document : Document}
    (before : ∀ other ∈ front, query other = .ok false) (here : query document = .ok true)
    (uniqueKeys : List String) (change : Change) :
    updateFirst uniqueKeys (front ++ document :: back) query change =
      .ok (changeOne uniqueKeys change front document back) := by
  unfold updateFirst
  rw [updateAfter_split before here]
  simp

/-- Where no document meets the query, nothing changes. -/
theorem updateFirst_unmet {query : Query} {test : Document → Bool} (decides : query.Decides test)
    {table : Table} (unmet : ∀ document ∈ table, test document = false)
    (uniqueKeys : List String) (change : Change) :
    updateFirst uniqueKeys table query change = .ok .unmet := by
  have through : ∀ (rest passed : List Document), (∀ document ∈ rest, test document = false) →
      updateAfter uniqueKeys query change passed rest = .ok .unmet := by
    intro rest
    induction rest with
    | nil =>
        intro passed _
        rfl
    | cons head others ih =>
        intro passed none
        simp only [updateAfter, decides head, none head (by simp), bind, Except.bind]
        exact ih _ fun document within => none document (List.mem_cons_of_mem _ within)
  unfold updateFirst
  rw [through table [] unmet]
  cases table <;> simp [decides [], bind, Except.bind]

/-! ### Unique keys -/

/-- How many documents of a table have a text in a field. -/
def holders (table : Table) (key s : String) : Nat :=
  (List.filter (fun document => Document.meets document key (.text s)) table).length

/-- The fields of these names are texts. -/
def HasTexts (document : Document) (keys : List String) : Prop :=
  ∀ key ∈ keys, ∃ s, Fields.get? document key = some (.text s)

/-- No two documents of a table share one of the keys of a document. -/
def KeysFree (table : Table) (document : Document) (keys : List String) : Prop :=
  ∀ key ∈ keys, ∀ s, Fields.get? document key = some (.text s) → table.holders key s ≤ 1

/-- Keys that are texts are free or taken, and nothing else can be wrong with them. -/
theorem uniqueFault?_cases (table : Table) {document : Document} {keys : List String}
    (texts : HasTexts document keys) :
    uniqueFault? table document keys = none ∧ table.KeysFree document keys ∨
      uniqueFault? table document keys = some .keyTaken ∧ ¬ table.KeysFree document keys := by
  induction keys with
  | nil => exact Or.inl ⟨rfl, by simp [KeysFree]⟩
  | cons key rest ih =>
      obtain ⟨s, known⟩ := texts key (by simp)
      have kept := keepMet_eq (Query.decides_text key s) table
      have here : Fields.getD document key = .text s := by simp [Fields.getD, known]
      by_cases shared : 1 < table.holders key s
      · refine Or.inr ⟨?_, ?_⟩
        · have more := shared
          unfold holders at more
          simp only [uniqueFault?, here, kept, if_pos more]
        · intro free
          exact absurd (free key (by simp) s known) (by omega)
      · have fault : uniqueFault? table document (key :: rest) = uniqueFault? table document rest := by
          have fewer := shared
          unfold holders at fewer
          simp only [uniqueFault?, here, kept, if_neg fewer]
        rw [fault]
        have others : HasTexts document rest := fun other within =>
          texts other (List.mem_cons_of_mem _ within)
        rcases ih others with ⟨none, free⟩ | ⟨taken, shares⟩
        · refine Or.inl ⟨none, ?_⟩
          intro other within t found
          rcases List.mem_cons.mp within with rfl | behind
          · rw [known] at found
            cases found
            omega
          · exact free other behind t found
        · refine Or.inr ⟨taken, fun free => shares ?_⟩
          exact fun other within => free other (List.mem_cons_of_mem _ within)

/-- Nothing else is wrong with the keys of a document that takes the place of another one with the same keys. -/
theorem uniqueFault?_replace {keys : List String} {document after : Document}
    (plain : ∀ key ∈ keys, Text.pathParts key = [key] ∧ key ≠ "" ∧ Filter.isWord key = false)
    (same : ∀ key ∈ keys, Fields.get? after key = Fields.get? document key) (front back : List Document) :
    uniqueFault? (front ++ after :: back) after keys = uniqueFault? (front ++ document :: back) document keys := by
  induction keys with
  | nil => rfl
  | cons key rest ih =>
      obtain ⟨⟨path, named, word⟩, plain⟩ := List.forall_mem_cons.1 plain
      obtain ⟨here, same⟩ := List.forall_mem_cons.1 same
      have value : Fields.getD after key = Fields.getD document key := by rw [Fields.getD, Fields.getD, here]
      have alike := Query.field_congr path named word here (Fields.getD document key)
      have sizes := length_keepMet_replace alike front back
      rw [uniqueFault?, uniqueFault?, value, ih plain same]
      cases one : keepMet (Query.field key (Fields.getD document key)) (front ++ after :: back) with
      | error fault =>
          cases other : keepMet (Query.field key (Fields.getD document key)) (front ++ document :: back) with
          | error known =>
              rw [one, other] at sizes
              rw [Except.error.inj sizes]
          | ok others =>
              rw [one, other] at sizes
              cases sizes
      | ok found =>
          cases other : keepMet (Query.field key (Fields.getD document key)) (front ++ document :: back) with
          | error known =>
              rw [one, other] at sizes
              cases sizes
          | ok others =>
              rw [one, other] at sizes
              have count : found.length = others.length := Except.ok.inj sizes
              simp only [count]

/-- An insertion leaves the table as it is or puts a document that the store takes at its end. -/
theorem insert_table (uniqueKeys : List String) (table : Table) (document : Document) :
    (table.insert uniqueKeys document).table = table ∨
      document.admissionFault? = none ∧
        (table.insert uniqueKeys document).table = table ++ [document.kept] := by
  unfold Table.insert
  split
  · exact Or.inl rfl
  · next admitted =>
      dsimp only
      split
      · exact Or.inl rfl
      · split
        · exact Or.inr ⟨admitted, rfl⟩
        · exact Or.inl rfl
        · exact Or.inr ⟨admitted, rfl⟩

/-- A document behind an insertion was there before, or is the one that was inserted. -/
theorem mem_of_mem_insert {uniqueKeys : List String} {table : Table} {document other : Document}
    (member : other ∈ (table.insert uniqueKeys document).table) :
    other ∈ table ∨ document.admissionFault? = none ∧ other = document.kept := by
  rcases insert_table uniqueKeys table document with same | ⟨admitted, grown⟩
  · exact Or.inl (same ▸ member)
  · rw [grown, List.mem_append, List.mem_singleton] at member
    exact member.imp_right fun new => ⟨admitted, new⟩

/-- A document that the store refuses is not inserted. -/
theorem insert_of_fault (uniqueKeys : List String) (table : Table) {document : Document} {fault : StoreFault}
    (unfit : document.admissionFault? = some fault) : table.insert uniqueKeys document = ⟨table, some fault⟩ := by
  simp only [Table.insert, unfit]

/-- A document that the store takes and whose keys are texts: its identity or one of its keys is taken, or it stands
at the end and has its keys alone. -/
theorem insert_cases {uniqueKeys : List String} (table : Table) {document : Document}
    (admitted : document.admissionFault? = none) (texts : HasTexts document.kept uniqueKeys) :
    ((table.any (Document.sameIdentity document.kept) = true ∨
        ¬ KeysFree (table ++ [document.kept]) document.kept uniqueKeys) ∧
      table.insert uniqueKeys document = ⟨table, some .keyTaken⟩) ∨
    (KeysFree (table ++ [document.kept]) document.kept uniqueKeys ∧
      table.insert uniqueKeys document = ⟨table ++ [document.kept], none⟩) := by
  unfold Table.insert
  simp only [admitted]
  cases known : table.any (Document.sameIdentity document.kept) with
  | true => exact Or.inl ⟨Or.inl rfl, by simp⟩
  | false =>
      rcases uniqueFault?_cases (table ++ [document.kept]) texts with ⟨none, free⟩ | ⟨taken, shares⟩
      · exact Or.inr ⟨free, by simp [none]⟩
      · exact Or.inl ⟨Or.inr shares, by simp [taken]⟩

/-- A document behind all others whose keys are free has them alone. -/
theorem alone_of_free {table : Table} {document : Document} {keys : List String} {key s : String}
    (free : KeysFree (table ++ [document]) document keys) (known : key ∈ keys)
    (here : Fields.get? document key = some (.text s)) :
    ∀ other ∈ table, Document.meets other key (.text s) = false := by
  let meets (other : Document) := Document.meets other key (.text s)
  have met : meets document = true := by simp [meets, Document.meets, Fields.getD, here]
  -- The new document is the one of all that may have the key.
  have one : (List.filter meets (table ++ [document])).length ≤ 1 := free key known s here
  rw [List.filter_append, List.length_append, List.filter_cons_of_pos met, List.length_cons] at one
  have others : List.filter meets table = [] := List.length_eq_zero_iff.1 (by omega)
  exact fun other member => by simpa [meets] using List.filter_eq_nil_iff.1 others other member

/-- Then it is found by that key. -/
theorem find?_of_alone {table : Table} {document : Document} {name s : String}
    (alone : ∀ other ∈ table, Document.meets other name (.text s) = false)
    (here : Fields.get? document name = some (.text s)) :
    find? (table ++ [document]) (Query.field name (.text s)) = .ok (some document) := by
  have passed : List.find? (fun document => Document.meets document name (.text s)) table = none :=
    List.find?_eq_none.2 fun other member => by simp [alone other member]
  have met : Document.meets document name (.text s) = true := by simp [Document.meets, Fields.getD, here]
  rw [find?_eq (Query.decides_text name s), List.find?_append, passed, Option.none_or, List.find?_singleton, if_pos met]

/-- A change that stops nowhere and leaves the identity alone is made, or refused because a key is taken. -/
theorem changeOne_cases {uniqueKeys : List String} {change : Change} (front back : List Document)
    {document after : Document} (made : change document = ⟨after, none⟩)
    (identity : Document.sameOrMissing (Fields.get? document Document.identity)
      (Fields.get? after Document.identity) = true)
    (texts : HasTexts after uniqueKeys) :
    KeysFree (front ++ after :: back) after uniqueKeys ∧
        changeOne uniqueKeys change front document back =
          .changed document after (front ++ after :: back) ∨
      ¬ KeysFree (front ++ after :: back) after uniqueKeys ∧
        changeOne uniqueKeys change front document back =
          .refused .keyTaken (front ++ document :: back) := by
  unfold changeOne
  rcases uniqueFault?_cases (front ++ after :: back) texts with
    ⟨none, free⟩ | ⟨taken, shares⟩
  · exact Or.inl ⟨free, by simp [made, identity, none]⟩
  · exact Or.inr ⟨shares, by simp [made, identity, taken]⟩

/-- A change that stops nowhere and leaves identity and keys alone is made where the document has these alone. -/
theorem changeOne_of_unique {uniqueKeys : List String} {change : Change} {front back : List Document}
    {document after : Document} (made : change document = ⟨after, none⟩)
    (identity : Document.sameOrMissing (Fields.get? document Document.identity)
      (Fields.get? after Document.identity) = true)
    (plain : ∀ key ∈ uniqueKeys, Text.pathParts key = [key] ∧ key ≠ "" ∧ Filter.isWord key = false)
    (same : ∀ key ∈ uniqueKeys, Fields.get? after key = Fields.get? document key)
    (unique : uniqueFault? (front ++ document :: back) document uniqueKeys = none) :
    changeOne uniqueKeys change front document back = .changed document after (front ++ after :: back) := by
  have free := (uniqueFault?_replace plain same front back).trans unique
  unfold changeOne
  simp [made, identity, free]

/-! ### What all documents of a table keep -/

section Documents

variable {P : Document → Prop} {uniqueKeys : List String} {query : Query} {change : Change} {table : Table}

/-- What all documents keep when the document that an update changed keeps it, however far the change came. -/
def Update.Keeps (P : Document → Prop) : Update → Prop
  | .unmet => True
  | .refused _ table => ∀ document ∈ table, P document
  | .changed _ _ table => ∀ document ∈ table, P document

theorem changeOne_keeps (kept : ∀ document, P document → P (change document).document) {front back : Table}
    {document : Document} (all : ∀ other ∈ front ++ document :: back, P other) :
    Update.Keeps P (changeOne uniqueKeys change front document back) := by
  rw [List.forall_mem_append, List.forall_mem_cons] at all
  have changed : ∀ other ∈ front ++ (change document).document :: back, P other :=
    List.forall_mem_append.2 ⟨all.1, List.forall_mem_cons.2 ⟨kept _ all.2.1, all.2.2⟩⟩
  have unchanged : ∀ other ∈ front ++ document :: back, P other :=
    List.forall_mem_append.2 ⟨all.1, List.forall_mem_cons.2 all.2⟩
  unfold changeOne
  dsimp only
  split
  · exact changed
  · split
    · exact unchanged
    · split
      · exact changed
      · exact unchanged
      · exact changed

/-- A change that keeps something of every document keeps it in the table. -/
theorem updateFirst_keeps (kept : ∀ document, P document → P (change document).document)
    (all : ∀ document ∈ table, P document) {outcome : Update}
    (made : updateFirst uniqueKeys table query change = .ok outcome) : Update.Keeps P outcome := by
  -- The search carries the documents that it has passed, so the induction is on those behind, for any that were passed.
  have through : ∀ (rest passed : Table), (∀ document ∈ passed ++ rest, P document) → ∀ {outcome},
      updateAfter uniqueKeys query change passed rest = .ok outcome → Update.Keeps P outcome := by
    intro rest
    induction rest with
    | nil =>
        intro passed _ outcome made
        obtain rfl := Except.ok.inj made
        trivial
    | cons document others ih =>
        intro passed all outcome made
        cases met : query document with
        | error fault => simp [updateAfter, met, bind, Except.bind] at made
        | ok holds =>
            cases holds with
            | true =>
                simp only [updateAfter, met, bind, Except.bind, if_true, pure, Except.pure, Except.ok.injEq] at made
                subst made
                exact changeOne_keeps kept all
            | false =>
                simp only [updateAfter, met, bind, Except.bind, Bool.false_eq_true, if_false] at made
                exact ih (passed ++ [document]) (by simpa using all) made
  unfold updateFirst at made
  split at made
  · cases empty : query [] with
    | error fault => simp [empty, bind, Except.bind] at made
    | ok met =>
        simp only [empty, bind, Except.bind] at made
        exact through table [] all made
  · exact through table [] all made

/-- What is left of a table was in it. -/
theorem mem_of_mem_dropFirst {document : Document} (member : document ∈ table.dropFirst query) :
    document ∈ table := by
  induction table with
  | nil => cases member
  | cons head rest ih =>
      unfold dropFirst at member
      split at member
      · exact List.mem_cons_of_mem _ member
      · rcases List.mem_cons.1 member with rfl | later
        · simp
        · exact List.mem_cons_of_mem _ (ih later)

theorem mem_of_removeFirst? {left : Table} (made : table.removeFirst? query = .ok (some left)) :
    ∀ document ∈ left, document ∈ table := by
  unfold removeFirst? at made
  cases found : table.find? query with
  | error fault =>
      rw [found] at made
      cases made
  | ok here =>
      rw [found] at made
      cases here with
      | none => cases Except.ok.inj made
      | some first =>
          obtain rfl := Option.some.inj (Except.ok.inj made)
          exact fun document => mem_of_mem_dropFirst

end Documents

end Countersign.Table
