/-
Module: Countersign.Proofs.Commands.Numbers
Purpose: The ids of requests have numbers that were taken, so the next number is a new one.
Main exports: ServiceState.Numbered, ServiceState.Numbered.keptByAuthors, ServiceState.Numbered.keptByRouting
-/
import Countersign.Proofs.Commands.Aside
import Countersign.Proofs.Commands.Routing

namespace Countersign

open Service

/-!
The number of a request is taken before the request is stored, and none is ever given back. Opening a request is
the only command that puts one into the store, and no command changes the id of one that is there.
-/

/-- A state in which the number of every stored request was taken. -/
def ServiceState.Numbered (s : ServiceState) : Prop :=
  ∀ document ∈ s.store.requests, ∃ number ≤ s.taken "APR",
    Fields.get? document "approval_request_id" = some (.text (idText "APR" number))

/-- Where requests are the same and no number was given back, requests are still numbered. -/
theorem ServiceState.Numbered.congr {s s' : ServiceState} (numbered : s.Numbered)
    (requests : s'.store.requests = s.store.requests) (few : s.taken "APR" ≤ s'.taken "APR") : s'.Numbered := by
  intro document member
  obtain ⟨number, before, named⟩ := numbered document (requests ▸ member)
  exact ⟨number, Nat.le_trans before few, named⟩

namespace Service

/-- A request with a number that was taken may be inserted. -/
theorem exec_insert_numbered {s : ServiceState} {request : Request} {number : Nat}
    (named : request.id = idText "APR" number) (few : number ≤ s.taken "APR") (numbered : s.Numbered) :
    (exec (insert .requests request.document) s).2.Numbered := by
  have known : Fields.get? request.document "approval_request_id" = some (.text (idText "APR" number)) := by
    simp [Request.document, Request.fields, named]
  generalize request.document = document at known ⊢
  rcases Bool.eq_false_or_eq_true s.down with down | up
  · rw [exec_insert_down down]
    exact numbered
  · rw [exec_insert _ up rfl]
    intro other member
    rcases Table.mem_of_mem_insert (show other ∈ (Table.insert _ s.store.requests document).table from member) with
      old | ⟨-, rfl⟩
    · exact numbered other old
    · exact ⟨number, few, by rw [Document.kept, Fields.get?_storedFields, known]; rfl⟩

end Service

namespace ServiceState.Numbered

theorem of_aside {α : Type} {part : Service α} (aside : IsAside part) : Keeps Numbered part :=
  fun s numbered => numbered.congr (aside s).requests ((aside s).taken "APR")

theorem keptByAuthors : KeptByAuthors Numbered where
  asks asks := of_aside asks.isAside
  insert _ := of_aside .insert_rules
  update _ := of_aside .update_rules
  remove := of_aside .remove_rules

theorem keptByRouting : KeptByRouting Numbered where
  asks asks := of_aside asks.isAside
  tickets := fun _ numbered => numbered.congr rfl (Nat.le_refl _)
  request := exec_insert_numbered

end ServiceState.Numbered

end Countersign
