import FaultGate.Fault
import FaultGate.Log
import FaultGate.Text.Quoted

/-!
# Kinds of faults and the roles they are bound to

A registry knows how to construct a fault of each registered kind from a message, and which kind
stands in for each of two abstract roles. A builder collects registrations and bindings in any
order; whether they fit together is checked once, when the registry is built.
-/

namespace FaultGate

/-- The roles whose kind can be chosen. -/
inductive Role where
  | maintenance
  | serverInternalError
  deriving DecidableEq, Repr

namespace Role

/-- All roles, in the order in which they are checked. -/
def all : List Role := [.maintenance, .serverInternalError]

/-- The key of the role in settings, which is also its name in a log. -/
def key : Role → String
  | .maintenance => "maintain-mode"
  | .serverInternalError => "server-internal-error"

/-- The built-in kind that stands in for the role when none is bound. -/
def defaultKind : Role → String
  | .maintenance => maintainModeKind
  | .serverInternalError => serverInternalErrorKind

/-- The role's name in a registry's own description. -/
def caption : Role → String
  | .maintenance => "Maintenance"
  | .serverInternalError => "ServerInternalError"

end Role

/-- The kind chosen for each role, where one is. -/
structure Bindings where
  maintenance : Option String
  serverInternalError : Option String
  deriving DecidableEq, Repr

namespace Bindings

def none : Bindings := ⟨.none, .none⟩

/-- The kind bound to a role. -/
def get? (b : Bindings) : Role → Option String
  | .maintenance => b.maintenance
  | .serverInternalError => b.serverInternalError

/-- Binds a role to a kind, in place of what it was bound to. -/
def set (b : Bindings) (role : Role) (kind : String) : Bindings :=
  match role with
  | .maintenance => { b with maintenance := some kind }
  | .serverInternalError => { b with serverInternalError := some kind }

@[simp] theorem get?_none (role : Role) : none.get? role = .none := by
  cases role <;> rfl

theorem get?_set (b : Bindings) (role other : Role) (kind : String) :
    (b.set role kind).get? other = if other = role then some kind else b.get? other := by
  cases role <;> cases other <;> rfl

end Bindings

inductive Unresolved where
  | notRegistered
  | notDomain
  | notRendered
  deriving DecidableEq, Repr

def Unresolved.text : Unresolved → String
  | .notRegistered => "kind is not registered"
  | .notDomain => "kind does not construct a domain fault"
  | .notRendered => "substituted fault did not render"

/-- What can be wrong with a registry. -/
inductive RegistryError where
  | unresolvable (kind : String) (reason : Unresolved)
  | duplicate (kind : String)
  deriving DecidableEq, Repr

def RegistryError.message : RegistryError → String
  | .unresolvable kind reason =>
    "unresolvable exception kind '" ++ kind ++ "': " ++ reason.text
  | .duplicate kind => "exception kind already registered: " ++ kind

/-- Constructs a fault of some kind from a message. -/
abbrev Factory := String → Fault

/-- The factory of a declared fault. -/
def Factory.declared (kind : String) (code : ErrorCode) (status : Status) : Factory :=
  fun message => ApiFault.toFault { kind, code, status, message, details := [] }

/-- The factories that every registry starts with. -/
def builtins : List (String × Factory) :=
  [(maintainModeKind, fun message => (ApiFault.maintainMode message).toFault),
    (serverInternalErrorKind, fun message => (ApiFault.serverInternalError message).toFault)]

/-- Kinds with their factories, and the kinds that the roles are bound to. -/
structure Registry where
  /-- Each kind occurs once. -/
  factories : List (String × Factory)
  bindings : Bindings

namespace Registry

/-- The built-in kinds, with no role bound. -/
def defaults : Registry := ⟨builtins, .none⟩

def factory? (r : Registry) (kind : String) : Option Factory :=
  r.factories.lookup kind

def contains (r : Registry) (kind : String) : Bool :=
  (r.factory? kind).isSome

/-- The kind bound to the role, or else the given one. -/
def resolve (r : Registry) (role : Role) (default : String) : String :=
  (r.bindings.get? role).getD default

/-- The kind bound to the role, or else the built-in one. -/
def resolveRole (r : Registry) (role : Role) : String :=
  r.resolve role role.defaultKind

/-- Constructs a fault of a kind, which must be registered and must yield a domain fault for this
very message. -/
def instantiate (r : Registry) (kind message : String) : Except RegistryError DomainFault :=
  match r.factory? kind with
  | none => .error (.unresolvable kind .notRegistered)
  | some factory =>
    match factory message with
    | .domain fault => .ok fault
    | _ => .error (.unresolvable kind .notDomain)

/-- The registered kinds in order. The order of strings by code points is the order of their UTF-8
bytes. -/
def kinds (r : Registry) : List String :=
  (r.factories.map Prod.fst).mergeSort fun a b => decide (a ≤ b)

/-- The registry in words: its kinds and its bindings. -/
def describe (r : Registry) : String :=
  let bound := Role.all.filterMap fun role =>
    (r.bindings.get? role).map fun kind => role.caption ++ ": " ++ Text.quoted kind
  "ExceptionKindRegistry \x7b kinds: " ++ Text.quotedList r.kinds ++ ", bindings: \x7b" ++
    String.intercalate ", " bound ++ "\x7d \x7d"

end Registry

/-- The registrations and bindings that a registry is to be built from. -/
structure RegistryBuilder where
  factories : List (String × Factory)
  bindings : Bindings
  /-- The kinds that were registered although they were taken, oldest first. -/
  duplicates : List String

namespace RegistryBuilder

/-- A builder that knows the built-in kinds. -/
def empty : RegistryBuilder := ⟨builtins, .none, []⟩

/-- Registers a kind. The first registration of a name stays. -/
def register (b : RegistryBuilder) (kind : String) (factory : Factory) : RegistryBuilder :=
  if (b.factories.lookup kind).isSome then { b with duplicates := b.duplicates ++ [kind] }
  else { b with factories := b.factories ++ [(kind, factory)] }

/-- Registers a declared fault under its name. -/
def declare (b : RegistryBuilder) (kind : String) (code : ErrorCode) (status : Status) :
    RegistryBuilder :=
  b.register kind (.declared kind code status)

/-- Binds a role to a kind. The last binding of a role counts. -/
def bind (b : RegistryBuilder) (role : Role) (kind : String) : RegistryBuilder :=
  { b with bindings := b.bindings.set role kind }

/-- Checks what a role is bound to: the kind must be registered, and must yield a domain fault for
the empty message. -/
def checkBinding (b : RegistryBuilder) (kind : String) : Except RegistryError Unit :=
  match b.factories.lookup kind with
  | none => .error (.unresolvable kind .notRegistered)
  | some factory =>
    if (factory "").isDomain then .ok () else .error (.unresolvable kind .notDomain)

/-- The event that a binding was accepted. -/
def boundEvent (role : Role) (kind : String) : Log.Event where
  level := .debug
  origin := .registry
  message := "exception role bound"
  fields := [("role", .text role.key), ("kind", .text kind)]

/-- Checks the bindings of the given roles in order, up to the first that is wrong, with one event
for each that is right. -/
def checkRoles (b : RegistryBuilder) : List Role → Except RegistryError Unit × List Log.Event
  | [] => (.ok (), [])
  | role :: rest =>
    match b.bindings.get? role with
    | none => b.checkRoles rest
    | some kind =>
      match b.checkBinding kind with
      | .error e => (.error e, [])
      | .ok () =>
        let (result, events) := b.checkRoles rest
        (result, boundEvent role kind :: events)

/-- Builds the registry, and tells which bindings were accepted on the way. A kind that was
registered twice is the first thing complained of. -/
def build (b : RegistryBuilder) : Except RegistryError Registry × List Log.Event :=
  match b.duplicates with
  | kind :: _ => (.error (.duplicate kind), [])
  | [] =>
    match b.checkRoles Role.all with
    | (.error e, events) => (.error e, events)
    | (.ok (), events) => (.ok ⟨b.factories, b.bindings⟩, events)

end RegistryBuilder

end FaultGate
