import FaultGate.Proofs.Construction
import FaultGate.Server.Basic

/-!
# From what the settings declare to what the server answers with

The settings declare faults by name, code and status, and bind roles to names.
The server never looks at them again: it asks a registry of factories. This
file says what the registry of accepted settings contains, so that the laws of
the server can speak of declarations and need not speak of factories.

A registry is a list of names in which the first entry counts, and so is the
list of declarations, once the built-in faults are put in front of it.
Registering the declared faults one after another is then the same as looking
into that list, and the only thing to be carried through the recursion is what
was found before.
-/

namespace FaultGate

/-- What is declared of a fault beside its name. -/
structure Declaration where
  code : ErrorCode
  status : Status
  deriving DecidableEq, Repr

namespace Declaration

/-- The fault that is declared under a name, with a message. -/
def fault (d : Declaration) (kind message : String) : ApiFault where
  kind := kind
  code := d.code
  status := d.status
  message := message
  details := []

@[simp] theorem fault_status (d : Declaration) (kind message : String) :
    (d.fault kind message).status = d.status := rfl

/-- The name of the kind does not occur in the body. -/
@[simp] theorem fault_body (d : Declaration) (kind message : String)
    (ctx : RequestContext) :
    (d.fault kind message).body ctx =
      { code := d.code
        status := d.status.toUInt16
        message := message
        requestId := ctx.requestId
        details := [] } := rfl

/-- What is declared of the built-in faults. -/
def builtins : List (String × Declaration) :=
  [(maintainModeKind, ⟨.maintainMode, .serviceUnavailable⟩),
    (serverInternalErrorKind, ⟨.internalError, .internalServerError⟩)]

end Declaration

/-- The entry of a declared fault. Settings are not accepted when a status is
none, so that no declaration is left out of a server. -/
def Settings.FaultDefinition.entry? (d : Settings.FaultDefinition) :
    Option (String × Declaration) :=
  (Status.ofNat? d.status.toNat).map fun status => (d.name, ⟨⟨d.code⟩, status⟩)

namespace Settings.Handler

/-- All declarations in force: the built-in faults and those of the settings. -/
def declarations (h : Handler) : List (String × Declaration) :=
  Declaration.builtins ++ h.faults.filterMap FaultDefinition.entry?

/-- The kind that stands in for a role. -/
def kindOf (h : Handler) (role : Role) : String :=
  (h.bindings.get? role).getD role.defaultKind

/-- The factory that a declaration is registered as. -/
def factoryOf (kind : String) (d : Declaration) : Factory :=
  .declared kind d.code d.status

theorem factoryOf_apply (kind message : String) (d : Declaration) :
    factoryOf kind d message = .domain (d.fault kind message).toDomain := rfl

/-! ## The registry of accepted settings -/

theorem builtins_lookup (kind : String) :
    FaultGate.builtins.lookup kind =
      (Declaration.builtins.lookup kind).map (factoryOf kind) := by
  by_cases hm : kind = maintainModeKind
  · rw [hm]
    rfl
  · by_cases hs : kind = serverInternalErrorKind
    · rw [hs]
      rfl
    · simp only [FaultGate.builtins, Declaration.builtins, List.lookup_cons,
        List.lookup_nil, beq_false_of_ne hm, beq_false_of_ne hs, Option.map_none]

/-- Each declaration is registered with its status, where all of them are. -/
theorem declareAll_cons {d : FaultDefinition} {faults : List FaultDefinition}
    {b b' : RegistryBuilder} (h : declareAll b (d :: faults) = .ok b') :
    ∃ status, Status.ofNat? d.status.toNat = some status ∧
      declareAll (b.declare d.name ⟨d.code⟩ status) faults = .ok b' := by
  rw [declareAll] at h
  split at h
  · cases h
  · rename_i status hstatus
    exact ⟨status, hstatus, h⟩

/-- Registering declared faults: a name that was there before keeps its
factory, and any other finds its first declaration. -/
theorem declareAll_lookup {faults : List FaultDefinition} (kind : String) :
    ∀ {b b' : RegistryBuilder}, declareAll b faults = .ok b' →
      b'.factories.lookup kind =
        (b.factories.lookup kind).or
          (((faults.filterMap FaultDefinition.entry?).lookup kind).map
            (factoryOf kind)) := by
  induction faults with
  | nil =>
      intro b b' h
      injection h with h
      subst h
      rw [List.filterMap_nil, List.lookup_nil, Option.map_none, Option.or_none]
  | cons d faults ih =>
      intro b b' h
      obtain ⟨status, hstatus, hrest⟩ := declareAll_cons h
      have hentry : d.entry? = some (d.name, ⟨⟨d.code⟩, status⟩) := by
        rw [FaultDefinition.entry?, hstatus]
        rfl
      rw [ih hrest, RegistryBuilder.declare, RegistryBuilder.register_lookup,
        List.filterMap_cons_some hentry, List.lookup_cons, Option.or_assoc]
      by_cases heq : kind = d.name
      · rw [if_pos heq, ← heq, beq_self_eq_true]
        rfl
      · rw [if_neg heq, beq_false_of_ne heq, Option.none_or]

theorem declareAll_bindings {faults : List FaultDefinition} :
    ∀ {b b' : RegistryBuilder}, declareAll b faults = .ok b' →
      b'.bindings = b.bindings := by
  induction faults with
  | nil =>
      intro b b' h
      injection h with h
      rw [h]
  | cons d faults ih =>
      intro b b' h
      obtain ⟨status, _, hrest⟩ := declareAll_cons h
      rw [ih hrest, RegistryBuilder.declare, RegistryBuilder.register]
      split <;> rfl

theorem bindAll_factories (h : Handler) (b : RegistryBuilder) :
    (h.bindAll b).factories = b.factories := by
  simp only [bindAll, Role.all, List.foldl_cons, List.foldl_nil]
  cases h.bindings.get? .maintenance with
  | none => cases h.bindings.get? .serverInternalError <;> rfl
  | some _ => cases h.bindings.get? .serverInternalError <;> rfl

/-- A builder in which nothing was bound binds what the settings bind. -/
theorem bindAll_get? (h : Handler) {b : RegistryBuilder}
    (hb : b.bindings = .none) (role : Role) :
    (h.bindAll b).bindings.get? role = h.bindings.get? role := by
  simp only [bindAll, Role.all, List.foldl_cons, List.foldl_nil]
  cases hm : h.bindings.get? .maintenance with
  | none =>
      cases hs : h.bindings.get? .serverInternalError with
      | none => cases role <;> simp [hb, hm, hs]
      | some _ => cases role <;> simp [RegistryBuilder.bind, Bindings.get?_set, hb, hm, hs]
  | some _ =>
      cases hs : h.bindings.get? .serverInternalError with
      | none => cases role <;> simp [RegistryBuilder.bind, Bindings.get?_set, hb, hm, hs]
      | some _ => cases role <;> simp [RegistryBuilder.bind, Bindings.get?_set, hm, hs]

/-- What the registry of accepted settings is: it finds what is declared, and
a role is the kind that the settings bind it to. -/
theorem buildRegistry_eq_ok {h : Handler} {registry : Registry}
    {events : List Log.Event} (hr : h.buildRegistry = (.ok registry, events)) :
    (∀ kind, registry.factory? kind =
      (h.declarations.lookup kind).map (factoryOf kind)) ∧
    (∀ role, registry.resolveRole role = h.kindOf role) ∧
    ∀ role, ∃ d, h.declarations.lookup (h.kindOf role) = some d := by
  rw [buildRegistry] at hr
  split at hr
  · cases hr
  · rename_i b hb
    split at hr
    · rename_i built _ hbuild
      injection hr with hr _
      injection hr with hr
      subst hr
      have hfind : ∀ kind, (h.bindAll b).factories.lookup kind =
          (h.declarations.lookup kind).map (factoryOf kind) := by
        intro kind
        rw [bindAll_factories, declareAll_lookup kind hb, declarations,
          List.lookup_append, Option.map_or, ← builtins_lookup]
        rfl
      have hkeeps : (h.bindAll b).KeepsDefaults := by
        intro role
        rw [hfind, declarations, List.lookup_append]
        cases role <;> rfl
      obtain ⟨heq, _, _⟩ := RegistryBuilder.build_eq_ok hbuild
      have hrole : ∀ role, built.resolveRole role = h.kindOf role := by
        intro role
        rw [heq, Registry.resolveRole, Registry.resolve, kindOf]
        exact congrArg (·.getD role.defaultKind)
          (bindAll_get? h (declareAll_bindings hb) role)
      have hfactory : ∀ kind, built.factory? kind =
          (h.declarations.lookup kind).map (factoryOf kind) := by
        intro kind
        rw [heq]
        exact hfind kind
      refine ⟨hfactory, hrole, fun role => ?_⟩
      obtain ⟨factory, hf, _⟩ :=
        RegistryBuilder.built_factory?_resolveRole hkeeps hbuild role
      rw [hrole, hfactory] at hf
      obtain ⟨d, hd, _⟩ := Option.map_eq_some_iff.mp hf
      exact ⟨d, hd⟩
    · cases hr

theorem buildRegistry_events (h : Handler) :
    ∀ event ∈ h.buildRegistry.2, ∃ role kind, event = RegistryBuilder.boundEvent role kind := by
  intro event he
  rw [buildRegistry] at he
  split at he
  · cases he
  · split at he <;> rename_i hbuild
    · exact RegistryBuilder.build_events event (by rw [hbuild]; exact he)
    · exact RegistryBuilder.build_events event (by rw [hbuild]; exact he)

/-- A declared fault is what its name is instantiated to, with any message. -/
theorem instantiate_of_declared {h : Handler} {registry : Registry}
    {events : List Log.Event} (hr : h.buildRegistry = (.ok registry, events))
    {kind : String} {d : Declaration} (hd : h.declarations.lookup kind = some d)
    (message : String) :
    registry.instantiate kind message = .ok (d.fault kind message).toDomain := by
  have hf : registry.factory? kind = some (factoryOf kind d) := by
    rw [(buildRegistry_eq_ok hr).1, hd]
    rfl
  exact Registry.instantiate_of_domain hf (factoryOf_apply kind message d)

end Settings.Handler

namespace Server

theorem ofSettings_events (s : Settings.Server) :
    ∀ event ∈ (ofSettings s).2, ∃ role kind, event = RegistryBuilder.boundEvent role kind := by
  intro event he
  refine s.handler.buildRegistry_events event ?_
  rw [ofSettings] at he
  split at he <;> rename_i hr
  · rw [hr]
    exact he
  · rw [hr]
    split at he <;> exact he

/-- What an accepted server is made of. -/
theorem ofSettings_eq_ok {s : Settings.Server} {server : Server}
    {events : List Log.Event} (h : ofSettings s = (.ok server, events)) :
    s.handler.buildRegistry = (.ok server.registry, events) ∧
    server.faults = .plain ⟨server.registry, s.handler.scope⟩ s.handler.posture ∧
    server.switch = switchOf s.maintenance := by
  rw [ofSettings] at h
  split at h
  · cases h
  · rename_i registry events' hr
    split at h
    · cases h
    · injection h with h hevents
      injection h with h
      subst h hevents
      exact ⟨hr, rfl, rfl⟩

/-- In an accepted server every role has a stand-in, whatever its message: the
fault that is declared for the kind that the settings bind the role to. -/
theorem substitute_of_ofSettings {s : Settings.Server} {server : Server}
    {events : List Log.Event} (h : ofSettings s = (.ok server, events))
    (role : Role) :
    ∃ d, s.handler.declarations.lookup (s.handler.kindOf role) = some d ∧
      ∀ message, server.faults.resolver.substitute role message =
        .ok (d.fault (s.handler.kindOf role) message).toDomain := by
  obtain ⟨hr, hfaults, _⟩ := ofSettings_eq_ok h
  obtain ⟨_, hrole, hdeclared⟩ := Settings.Handler.buildRegistry_eq_ok hr
  obtain ⟨d, hd⟩ := hdeclared role
  refine ⟨d, hd, fun message => ?_⟩
  rw [hfaults]
  simp only [FaultHandler.plain, Resolver.substitute, hrole]
  exact Settings.Handler.instantiate_of_declared hr hd message

end Server

/-- The least that a server accepts: the name of an application, and the fault
that one of the endpoints raises. -/
def Settings.Server.least : Settings.Server where
  handler := {
    app := ⟨"least", Settings.App.defaultEnvironment, false⟩
    scope := Resolver.defaultScope
    bindings := .none
    faults := [⟨Server.quotaExceeded, "SYS_API_QUOTA_EXCEEDED", 429⟩] }
  listen := .default
  maintenance := .default
  logging := .default

/-- There are settings that a server accepts. -/
theorem Server.ofSettings_least :
    ∃ server events, Server.ofSettings .least = (.ok server, events) :=
  ⟨_, _, rfl⟩

end FaultGate
