/-
Module: Countersign.Service.Application
Purpose: Starting and stopping the service, and filling its catalog from a shell.
Main exports: Application.start, Application.stop, Application.connect, Application.seedFromShell
-/
import Countersign.Rule.Catalog
import Countersign.Rule.FieldCatalog
import Countersign.Service.Connection

namespace Countersign.Application

open Service

/-- What a failure says in the journal. -/
def said (failure : Failure) : String := failure.storageMessage

/-- Start the service. Neither indexes nor rules that could not be stored keep it from starting. -/
def start (settings : Settings) : Service Unit := do
  note .info .application "Starting Trade Approval Engine..."
  match ← attempt (Connection.createIndexes settings) with
  | .ok _ => note .info .application "MongoDB indexes created"
  | .error failure => note .error .application s!"Failed to create indexes: {said failure}"
  if settings.seedRules then
    let seed : Service Unit := do
      Connection.ensure settings
      let _ ← RuleCatalog.seed
    match ← attempt seed with
    | .ok _ => pure ()
    | .error failure =>
        note .error .application s!"Failed to seed default approval rules: {said failure}"
  note .info .application "Application started successfully"

/-- Stop the service. -/
def stop : Service Unit := do
  note .info .application "Shutting down..."
  Connection.close
  note .info .application "Application shutdown complete"

/-- Break the connection and connect anew. -/
def connect (settings : Settings) : Service Unit := do
  Connection.close
  Connection.ensure settings

/-- What is told of a rule that was created. -/
def ruleLines (rule : Rule) : List String :=
  [s!"  [{rule.priority}] {rule.name} -> " ++ ", ".intercalate rule.approvers,
    s!"      when {rule.describe}"]

/-- Fill the catalog with the default rules, and give the lines that are printed. -/
def seedFromShell (settings : Settings) : Service (List String) := do
  Connection.createIndexes settings
  let created ← RuleCatalog.seed
  let told :=
    if created.isEmpty then ["Approval rules already exist. Skipping seed."]
    else s!"Created {created.length} approval rules:" :: created.flatMap ruleLines
  Connection.close
  return "Creating indexes..." :: told

end Countersign.Application
