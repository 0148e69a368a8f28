import FaultGate.Handler
import FaultGate.Maintenance
import FaultGate.Settings.Server

/-!
# The demonstration server

A server is made from its settings once, and does not change while it runs; what changes is the
condition that decides about maintenance.
-/

namespace FaultGate

/-- A server that is ready to answer requests. -/
structure Server where
  registry : Registry
  faults : FaultHandler
  switch : MaintenanceSwitch

namespace Server

/-- The kind of fault that an endpoint raises, which the settings must declare. -/
def quotaExceeded : String := "QuotaExceeded"

/-- The path on which maintenance is switched. -/
def maintenancePath : String := "/admin/maintenance"

/-- The path on which the server tells that it is alive. -/
def healthPath : String := "/healthz"

/-- Why a server cannot be made from settings that were accepted. -/
inductive BuildError where
  | settings (error : Settings.Error)
  | undeclared (kind : String)

/-- The error in words, where it can be told without a place in a text. -/
def BuildError.message? : BuildError → Option String
  | .settings e => e.message?
  | .undeclared kind => some ("exception kind '" ++ kind ++ "' must be declared in errors")

/-- How the settings announce maintenance. -/
def switchOf (m : Settings.Maintenance) : MaintenanceSwitch where
  flagPath := m.flagPath
  retryAfter := m.retryAfter
  excepted := [healthPath, maintenancePath]

/-- The server that the settings describe, and the events of making it. -/
def ofSettings (s : Settings.Server) : Except BuildError Server × List Log.Event :=
  match s.handler.buildRegistry with
  | (.error e, events) => (.error (.settings e), events)
  | (.ok registry, events) =>
    if !registry.contains quotaExceeded then (.error (.undeclared quotaExceeded), events)
    else
      let resolver : Resolver := ⟨registry, s.handler.scope⟩
      (.ok ⟨registry, .plain resolver s.handler.posture, switchOf s.maintenance⟩, events)

end Server

end FaultGate
