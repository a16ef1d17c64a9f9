/-
Module: Countersign.Proofs.Commands.Dates
Purpose: The documents of requests tell by a moment when they were created.
Main exports: Document.IsDated, ServiceState.Dated, ServiceState.Dated.keptByAuthors,
  ServiceState.Dated.keptBySubmitting
-/
import Countersign.Proofs.Commands.Aside
import Countersign.Proofs.Commands.Submitting

namespace Countersign

open Service

/-!
Requests are listed by what their documents tell of when they were created. A request can be read from a document
that tells this by a text or by a number, which would be sorted by themselves; but the only command that puts a
request into the store writes a moment there, and no change of a request touches it.
-/

/-- A document that tells by a moment when it was created. -/
def Document.IsDated (document : Document) : Prop := ∃ time, Fields.get? document "created_at" = some (.moment time)

/-- A state in which every stored request does. -/
def ServiceState.Dated (s : ServiceState) : Prop := ∀ document ∈ s.store.requests, document.IsDated

/-- The document that is put in for a request does. -/
theorem Request.isDated_kept (request : Request) : Document.IsDated (Document.kept request.document) := by
  refine ⟨request.createdAt.stored, ?_⟩
  rw [Document.kept, Fields.get?_storedFields]
  simp [document, fields, Value.stored]

namespace ServiceState.Dated

variable {s s' : ServiceState}

theorem congr (dated : s.Dated) (requests : s'.store.requests = s.store.requests) : s'.Dated := by
  rwa [Dated, requests]

theorem of_aside {α : Type} {part : Service α} (aside : IsAside part) : Keeps Dated part :=
  fun s dated => dated.congr (aside s).requests

/-- The other tables may be written. -/
theorem writing {collection : Collection} (other : collection ≠ .requests) : KeptByWriting Dated collection where
  asks asks := of_aside asks.isAside
  write s dated := dated.congr (Store.table_setTable_of_ne s.store _ other)

theorem keptByAuthors : KeptByAuthors Dated := (writing (by decide)).authors

theorem keptByRouting : KeptByRouting Dated where
  asks asks := of_aside asks.isAside
  tickets := (writing (by decide)).write
  request _ _ dated := all_exec_insert .requests dated fun _ => Request.isDated_kept _

theorem keptBySubmitting : KeptBySubmitting Dated where
  routing := keptByRouting
  requests spares s dated := by
    refine all_exec_change .requests dated fun document ⟨time, known⟩ => ⟨time, ?_⟩
    rw [spares "created_at" (by decide), known]
  actions := writing (by decide)
  wait := .bind (of_aside Asks.get.isAside) fun _ => .ite (fun _ dated => dated.congr rfl) .throw

end ServiceState.Dated

end Countersign
