/-
Module: Countersign.Store.Table
Purpose: Tables of documents with unique keys.
Main exports: Table, Table.filter, Table.find?, Table.select, Table.insert, Table.updateFirst,
  Table.removeFirst?
-/
import Countersign.Store.Change

namespace Countersign

/-!
A table keeps its documents in the order of insertion. No insertion and no finished change of a document
may give two documents the same value of a unique key; documents that lack the key share the value null.
Whether a value is taken is asked by a query for it, so a value that is a record of comparisons is taken
where they hold. An insertion either does all that it says or leaves the table as it was, and so does a
change that a key or an identity forbids; where that query itself fails, and of a change that stopped
half-way, the table keeps what was done.
-/

/-- Documents in the order of insertion. -/
abbrev Table := List Document

namespace Document

/-- Whether an identity can be looked up: no list is one, nor is a record with lists or records in a list. -/
def canIdentify : Value → Bool
  | .list _ => false
  | .record fields => fieldsCanIdentify fields
  | _ => true
where
  /-- Whether records of an identity can be looked up. -/
  fieldsCanIdentify : List (String × Value) → Bool
    | [] => true
    | (_, .list items) :: rest => items.all isLeaf && fieldsCanIdentify rest
    | (_, v) :: rest => canIdentify v && fieldsCanIdentify rest
  /-- Whether a value is neither a list nor a record. -/
  isLeaf : Value → Bool
    | .list _ => false
    | .record _ => false
    | _ => true

/-- Why the store does not take a document into any table, if it does not. -/
def admissionFault? (document : Document) : Option StoreFault :=
  if (Fields.names document).any Filter.isWord then some .notStorable
  else (Value.fieldsStoreFault? document).or
    (match Fields.get? document identity with
      | some v => if canIdentify v then none else some .notUsable
      | none => none)

end Document

/-- What became of a change to the first document that meets a query. -/
inductive Update where
  | unmet
  | refused (fault : StoreFault) (table : Table)
  | changed (before after : Document) (table : Table)
deriving Repr

/-- What became of an insertion: the table as it then is, and why the document was refused, if it was. -/
structure Insertion where
  table : List Document
  fault : Option StoreFault := none
deriving Repr

namespace Table

/-- The documents among some that meet a query. -/
def keepMet (query : Query) : List Document → Except FilterFault (List Document)
  | [] => .ok []
  | document :: rest => do
      let met ← query document
      let others ← keepMet query rest
      return if met then document :: others else others

/-- The documents that meet a query. The query of an empty table is tried on an empty document. -/
def filter (table : Table) (query : Query) : Except FilterFault (List Document) := do
  if table.isEmpty then
    let _ ← query []
  keepMet query table

/-- The first document that meets a query. -/
def find? (table : Table) (query : Query) : Except FilterFault (Option Document) :=
  List.head? <$> table.filter query

/-- The documents that meet a query, sorted by keys. -/
def select (table : Table) (query : Query) (keys : List SortKey) :
    Except FilterFault (List Document) :=
  (List.mergeSort · (Document.noLaterThan keys)) <$> table.filter query

/-- Why a document may not stand in a table that holds it already, if it may not: a query for its value of
a unique key finds another document, or fails. -/
def uniqueFault? (table : Table) (document : Document) : List String → Option StoreFault
  | [] => none
  | key :: keys =>
      match keepMet (Query.field key (Fields.getD document key)) table with
      | .error fault => some (.filter fault)
      | .ok found => if 1 < found.length then some .keyTaken else uniqueFault? table document keys

/-- Put a document at the end, unless the store refuses it or one of its keys is taken. -/
def insert (uniqueKeys : List String) (table : Table) (document : Document) : Insertion :=
  match document.admissionFault? with
  | some fault => ⟨table, some fault⟩
  | none =>
      let document := document.kept
      if table.any document.sameIdentity then ⟨table, some .keyTaken⟩
      else
        let grown := table ++ [document]
        match uniqueFault? grown document uniqueKeys with
        | none => ⟨grown, none⟩
        | some .keyTaken => ⟨table, some .keyTaken⟩
        | some fault => ⟨grown, some fault⟩

/-- What becomes of the change of one document, given those in front of it and behind it. -/
def changeOne (uniqueKeys : List String) (change : Change) (passed : Table) (document : Document)
    (rest : Table) : Update :=
  let outcome := change document
  let after := outcome.document
  let changed := passed ++ after :: rest
  let unchanged := passed ++ document :: rest
  match outcome.stopped with
  | some fault => .refused fault changed
  | none =>
      if !Document.sameOrMissing (Fields.get? document Document.identity)
          (Fields.get? after Document.identity) then
        .refused (.identityFixed (Fields.getD after Document.identity)) unchanged
      else match uniqueFault? changed after uniqueKeys with
        | none => .changed document after changed
        | some .keyTaken => .refused .keyTaken unchanged
        | some fault => .refused fault changed

/-- Change the first document that meets a query. `passed` are the documents in front of the table. -/
def updateAfter (uniqueKeys : List String) (query : Query) (change : Change) (passed : Table) :
    Table → Except FilterFault Update
  | [] => .ok .unmet
  | document :: rest => do
      if ← query document then return changeOne uniqueKeys change passed document rest
      else updateAfter uniqueKeys query change (passed ++ [document]) rest

/-- Change the first document that meets a query. -/
def updateFirst (uniqueKeys : List String) (table : Table) (query : Query) (change : Change) :
    Except FilterFault Update := do
  if table.isEmpty then
    let _ ← query []
  updateAfter uniqueKeys query change [] table

/-- The table without the first document that meets a query. -/
def dropFirst (query : Query) : Table → Table
  | [] => []
  | document :: rest =>
      match query document with
      | .ok true => rest
      | _ => document :: dropFirst query rest

/-- The table without the first document that meets a query, if there is one. -/
def removeFirst? (table : Table) (query : Query) : Except FilterFault (Option Table) :=
  (·.map fun _ => table.dropFirst query) <$> table.find? query

end Table

end Countersign
