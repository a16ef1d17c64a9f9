/-
Module: Countersign.Service.Connection
Purpose: Connecting to the store, preparing it, and telling how it is.
Main exports: Connection.ensure, Connection.close, Connection.createIndexes, Connection.health
-/
import Countersign.Service.Basic
import Countersign.Settings

namespace Countersign.Connection

open Service

/-- Connect to the server of the store, unless that was done. A server that does not answer counts as
connected to once it was tried. -/
def ensureClient (settings : Settings) : Service Unit := do
  if !(← get).link.client then
    note .info .connection s!"Connecting to MongoDB: {settings.storeAddress}"
    modify fun s => { s with link := { s.link with client := true } }
    match ← attempt reach with
    | .ok _ => note .info .connection "MongoDB connection successful"
    | .error failure =>
        note .error .connection s!"MongoDB connection failed: {failure.storageMessage}"
        throw failure

/-- Connect to the store, unless that was done. -/
def ensure (settings : Settings) : Service Unit := do
  if !(← get).link.database then
    ensureClient settings
    modify fun s => { s with link := { s.link with database := true } }
    note .info .connection s!"Using database: {settings.storeName}"

/-- Break the connection, if there is one. -/
def close : Service Unit := do
  if (← get).link.client then
    modify fun s => { s with link := ⟨false, false⟩ }
    note .info .connection "MongoDB connection closed"

/-- Prepare the tables of the store. -/
def createIndexes (settings : Settings) : Service Unit := do
  ensure settings
  note .info .connection "Creating MongoDB indexes..."
  let _ ← reach
  note .info .connection "MongoDB indexes created successfully"

/-- How the store is. -/
def health (settings : Settings) : Service Value := do
  let probe : Service Unit := do
    ensure settings
    let _ ← reach
  match ← attempt probe with
  | .ok _ =>
      return .record [("status", .text "healthy"), ("database", .text settings.storeName),
        ("connection", .text "ok")]
  | .error failure =>
      note .error .connection s!"MongoDB health check failed: {failure.storageMessage}"
      return .record [("status", .text "unhealthy"), ("database", .text settings.storeName),
        ("error", .text failure.storageMessage)]

end Countersign.Connection
