import FaultGate.FileTree
import FaultGate.Http.Message

/-!
# Maintenance

The service is under maintenance while this is switched on by hand or while a flag file exists;
the two are independent of each other. Around a service, the maintenance layer then answers
every request itself, except on paths that are excepted.
-/

namespace FaultGate

open FaultGate.Http (Reply Response Service)

/-- What decides about maintenance at a moment. -/
structure Condition where
  /-- Is maintenance switched on by hand? -/
  toggle : Bool
  files : FileTree
  deriving DecidableEq, Repr

/-- The condition in which nothing is switched on. -/
def Condition.initial (files : FileTree) : Condition := ⟨false, files⟩

/-- The condition after maintenance was switched by hand. -/
def Condition.switched (c : Condition) (on : Bool) : Condition :=
  { c with toggle := on }

structure MaintenanceSwitch where
  /-- The file whose existence means maintenance. -/
  flagPath : Option String
  /-- After how many seconds callers may try again. -/
  retryAfter : Option UInt64
  /-- What the paths begin with that are served all the same. -/
  excepted : List String
  deriving DecidableEq, Repr

namespace MaintenanceSwitch

def isOn (s : MaintenanceSwitch) (c : Condition) : Bool :=
  c.toggle || s.flagPath.any c.files.has

/-- Is the path served during maintenance too? -/
def excepts (s : MaintenanceSwitch) (path : String) : Bool :=
  s.excepted.any (beginsWith path)

/-- What a rejected caller is told. -/
def signal (s : MaintenanceSwitch) : MaintenanceSignal := ⟨s.retryAfter⟩

def rejectionEvent (path : String) : Log.Event where
  level := .debug
  origin := .maintenance
  message := "request rejected by maintenance mode"
  fields := [("path", .text path)]

/-- Puts the layer around a service. A rejected request is answered with a parked signal. -/
def layer (s : MaintenanceSwitch) (inner : Service Condition) : Service Condition :=
  fun request c =>
    if s.isOn c && !s.excepts request.uri.path then
      ⟨.park (.maintenance s.signal), [rejectionEvent request.uri.path], c⟩
    else inner request c

end MaintenanceSwitch

end FaultGate
