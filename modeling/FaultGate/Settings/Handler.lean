import FaultGate.Resolver
import FaultGate.Settings.Section

/-!
# The settings of fault handling

What the application is called and how open it is about its errors, the scope of its API, the
kinds that stand in for the two roles, and the faults that it declares. The settings are read,
checked for plausibility, and turned into a registry; the last two are independent of each
other.
-/

namespace FaultGate.Settings

/-- The application itself. -/
structure App where
  name : String
  environment : String
  debug : Bool
  deriving DecidableEq, Repr

namespace App

def defaultEnvironment : String := "dev"

def fields : List String := ["name", "environment", "debug"]

def read (mode : Mode) : Reader App := fun v => do
  let s ← Section.ofValue mode "AppConfig" fields v
  s.check [.readable "name" text, .readable "environment" text, .readable "debug" flag]
  return {
    name := ← s.required "name" text
    environment := ← s.withDefault "environment" text defaultEnvironment
    debug := ← s.withDefault "debug" flag false }

end App

/-- The API section, which holds the text that the paths of the API begin with. -/
def readScope (mode : Mode) : Reader String := fun v => do
  let s ← Section.ofValue mode "ApiConfig" ["prefix"] v
  s.check [.readable "prefix" text]
  s.withDefault "prefix" text Resolver.defaultScope

/-- The section that binds roles to kinds. -/
def readBindings (mode : Mode) : Reader Bindings := fun v => do
  let s ← Section.ofValue mode "ExceptionsConfig" (Role.all.map Role.key) v
  s.check (Role.all.map fun role => .readable role.key (optional text))
  return {
    maintenance := ← s.withDefault Role.maintenance.key (optional text) none
    serverInternalError := ← s.withDefault Role.serverInternalError.key (optional text) none }

/-- A fault that the application declares. Its status is any machine word until it is checked. -/
structure FaultDefinition where
  name : String
  code : String
  status : UInt16
  deriving DecidableEq, Repr

namespace FaultDefinition

def defaultStatus : UInt16 := 400

def fields : List String := ["name", "code", "status"]

def read (mode : Mode) : Reader FaultDefinition := fun v => do
  let s ← Section.ofValue mode "ErrorDefinition" fields v
  s.check [.readable "name" text, .readable "code" text, .readable "status" word16]
  return {
    name := ← s.required "name" text
    code := ← s.required "code" text
    status := ← s.withDefault "status" word16 defaultStatus }

end FaultDefinition

/-- The settings of fault handling. -/
structure Handler where
  app : App
  /-- What the paths of the API begin with. -/
  scope : String
  bindings : Bindings
  faults : List FaultDefinition
  deriving DecidableEq, Repr

/-- What is wrong with settings that could be read. -/
inductive Violation where
  | noAppName
  | scopeNotRooted
  | noName
  | noCode (name : String)
  | statusOutOfRange (name : String)
  | repeated (name : String)
  | statusNotHttp (name : String) (status : Nat)
  deriving DecidableEq, Repr

def Violation.message : Violation → String
  | .noAppName => "app.name is required"
  | .scopeNotRooted => "api.prefix must start with '/'"
  | .noName => "errors[].name is required"
  | .noCode name => "errors." ++ name ++ ".code is required"
  | .statusOutOfRange name => "errors." ++ name ++ ".status must be between 100 and 599"
  | .repeated name => "errors." ++ name ++ " is defined more than once"
  | .statusNotHttp name status =>
    "errors." ++ name ++ ".status is not a valid HTTP status: " ++ Nat.repr status

/-- What is wrong with one declaration, after those with the given names. -/
def FaultDefinition.violation? (seen : List String) (d : FaultDefinition) : Option Violation :=
  if d.name.isEmpty then some .noName
  else if d.code.isEmpty then some (.noCode d.name)
  else if !(100 ≤ d.status.toNat && d.status.toNat ≤ 599) then some (.statusOutOfRange d.name)
  else if seen.contains d.name then some (.repeated d.name)
  else none

/-- What is wrong with the first declaration that violates anything. -/
def firstViolation? (seen : List String) : List FaultDefinition → Option Violation
  | [] => none
  | d :: rest =>
    match d.violation? seen with
    | some v => some v
    | none => firstViolation? (d.name :: seen) rest

namespace Handler

def fields : List String := ["app", "api", "exceptions", "errors"]

/-- Reads the fields of a section that holds these settings. -/
def ofSection (mode : Mode) (s : Section) : Except DecodeError Handler := do
  let definitions : Reader (List FaultDefinition) := list mode (FaultDefinition.read mode)
  s.check [.readable "app" (App.read mode), .readable "api" (readScope mode),
    .readable "exceptions" (readBindings mode), .readable "errors" definitions]
  return {
    app := ← s.required "app" (App.read mode)
    scope := ← s.withDefault "api" (readScope mode) Resolver.defaultScope
    bindings := ← s.withDefault "exceptions" (readBindings mode) .none
    faults := ← s.withDefault "errors" definitions [] }

/-- Reads a document that holds these settings and nothing else. -/
def read : Reader Handler := fun v => do
  ofSection .direct (← Section.ofValue .direct "HandlerConfig" fields v)

/-- The first thing that is wrong with the settings, if anything is. -/
def violation? (h : Handler) : Option Violation :=
  if h.app.name.isEmpty then some .noAppName
  else if !beginsWith h.scope "/" then some .scopeNotRooted
  else firstViolation? [] h.faults

def posture (h : Handler) : Posture := ⟨h.app.debug⟩

/-- Registers the declared faults in their order. A status that is none stops the registration. -/
def declareAll (b : RegistryBuilder) : List FaultDefinition → Except Violation RegistryBuilder
  | [] => .ok b
  | d :: rest =>
    match Status.ofNat? d.status.toNat with
    | none => .error (.statusNotHttp d.name d.status.toNat)
    | some status => declareAll (b.declare d.name ⟨d.code⟩ status) rest

/-- Binds the roles that the settings bind. -/
def bindAll (h : Handler) (b : RegistryBuilder) : RegistryBuilder :=
  Role.all.foldl
    (fun b role =>
      match h.bindings.get? role with
      | some kind => b.bind role kind
      | none => b)
    b

end Handler

end FaultGate.Settings
