import FaultGate.Proofs.Rendering

/-!
# What a built registry can be relied on for

A builder takes registrations and bindings in any order and checks nothing
until the end, and even then it looks only at the roles that are bound and
asks their factories for the empty message. Two facts make this enough. The
first is an invariant of every sequence of calls: a name that is registered
keeps its factory, so the built-in kinds, which are there from the start, can
never be replaced, and the roles that nobody bound always find their defaults.
The second is what the check at the end establishes for the roles that are
bound: their kinds are registered, with factories that yield a domain fault
for the empty message at least.

Together they say that the kind of a role is always registered. What can still
go wrong with a built registry is one thing only, a factory that yields a
domain fault for the empty message and none for the message it is asked for
later, and `built_instantiate_error` says just that.
-/

namespace FaultGate

/-- The fault that is built in for a role. -/
def Role.builtin : Role → String → ApiFault
  | .maintenance, message => .maintainMode message
  | .serverInternalError, message => .serverInternalError message

theorem builtins_lookup_defaultKind (role : Role) :
    builtins.lookup role.defaultKind =
      some fun message => (role.builtin message).toFault := by
  cases role <;> rfl

theorem lookup_isSome_iff_mem_names {factories : List (String × Factory)} {kind : String} :
    (factories.lookup kind).isSome = true ↔ kind ∈ factories.map Prod.fst := by
  rw [List.lookup_isSome_iff, List.mem_map]
  constructor
  · rintro ⟨e, he, heq⟩
    exact ⟨e, he, (eq_of_beq heq).symm⟩
  · rintro ⟨e, he, rfl⟩
    exact ⟨e, he, beq_self_eq_true _⟩

theorem Role.mem_all (role : Role) : role ∈ Role.all := by
  cases role <;> decide

/-- One call on a builder. -/
inductive RegistryCall where
  | register (kind : String) (factory : Factory)
  | declare (kind : String) (code : ErrorCode) (status : Status)
  | bind (role : Role) (kind : String)

/-- The name that a call registers. -/
def RegistryCall.name? : RegistryCall → Option String
  | .register kind _ => some kind
  | .declare kind _ _ => some kind
  | .bind _ _ => none

namespace RegistryBuilder

/-- The builder after one more call. -/
def call (b : RegistryBuilder) : RegistryCall → RegistryBuilder
  | .register kind factory => b.register kind factory
  | .declare kind code status => b.declare kind code status
  | .bind role kind => b.bind role kind

/-- A fresh builder after the given calls. -/
def ofCalls (calls : List RegistryCall) : RegistryBuilder :=
  calls.foldl call .empty

/-- The first registration of a name stays, and a new name is found from then
on. This holds of a name that was taken too, because nothing is added then. -/
theorem register_lookup (b : RegistryBuilder) (kind : String) (factory : Factory)
    (other : String) :
    (b.register kind factory).factories.lookup other =
      (b.factories.lookup other).or
        (if other = kind then some factory else none) := by
  rw [register]
  split
  · rename_i htaken
    split
    · rename_i heq
      subst heq
      rw [Option.or_of_isSome htaken]
    · rw [Option.or_none]
  · rw [List.lookup_append, List.lookup_cons, List.lookup_nil]
    by_cases heq : other = kind
    · rw [if_pos heq, heq, beq_self_eq_true]
    · rw [if_neg heq, beq_false_of_ne heq]

theorem register_lookup_of_some {b : RegistryBuilder} {kind other : String}
    {factory found : Factory} (h : b.factories.lookup other = some found) :
    (b.register kind factory).factories.lookup other = some found := by
  rw [register_lookup, h]
  rfl

/-- No call takes a factory away or puts another in its place. -/
theorem call_lookup_of_some {b : RegistryBuilder} {kind : String}
    {factory : Factory} (h : b.factories.lookup kind = some factory)
    (c : RegistryCall) : (b.call c).factories.lookup kind = some factory := by
  cases c with
  | register _ _ => exact register_lookup_of_some h
  | declare _ _ _ => exact register_lookup_of_some h
  | bind _ _ => exact h

theorem foldl_call_lookup_of_some {kind : String} {factory : Factory}
    (calls : List RegistryCall) :
    ∀ {b : RegistryBuilder}, b.factories.lookup kind = some factory →
      (calls.foldl call b).factories.lookup kind = some factory := by
  induction calls with
  | nil => exact fun h => h
  | cons c rest ih => exact fun h => ih (call_lookup_of_some h c)

/-- Whatever was called, the default kind of a role has its built-in factory. -/
theorem ofCalls_lookup_defaultKind (calls : List RegistryCall) (role : Role) :
    (ofCalls calls).factories.lookup role.defaultKind =
      some fun message => (role.builtin message).toFault :=
  foldl_call_lookup_of_some calls (builtins_lookup_defaultKind role)

/-! ## Names that were taken -/

theorem call_lookup_eq_none {b : RegistryBuilder} {c : RegistryCall} {kind : String}
    (h : (b.call c).factories.lookup kind = none) :
    b.factories.lookup kind = none ∧ c.name? ≠ some kind := by
  have hregister : ∀ {own : String} {factory : Factory},
      (b.register own factory).factories.lookup kind = none →
        b.factories.lookup kind = none ∧ some own ≠ some kind := by
    intro own factory h
    rw [register_lookup, Option.or_eq_none_iff] at h
    refine ⟨h.1, fun heq => ?_⟩
    injection heq with heq
    rw [if_pos heq.symm] at h
    cases h.2
  cases c with
  | register own factory => exact hregister h
  | declare own code status => exact hregister h
  | bind role own => exact ⟨h, fun heq => by cases heq⟩

theorem call_duplicates_eq_nil {b : RegistryBuilder} {c : RegistryCall}
    (h : (b.call c).duplicates = []) :
    b.duplicates = [] ∧ ∀ kind, c.name? = some kind → b.factories.lookup kind = none := by
  have hregister : ∀ {own : String} {factory : Factory},
      (b.register own factory).duplicates = [] →
        b.duplicates = [] ∧ ∀ kind, some own = some kind →
          b.factories.lookup kind = none := by
    intro own factory h
    rw [register] at h
    split at h
    · exact absurd (List.append_eq_nil_iff.mp h).2 (List.cons_ne_nil _ _)
    · rename_i hnew
      refine ⟨h, fun kind heq => ?_⟩
      injection heq with heq
      subst heq
      exact Option.not_isSome_iff_eq_none.mp hnew
  cases c with
  | register own factory => exact hregister h
  | declare own code status => exact hregister h
  | bind role own => exact ⟨h, fun kind heq => by cases heq⟩

/-- Where nothing is complained of in the end, every name was new when it was
registered. -/
theorem foldl_call_duplicates_eq_nil (calls : List RegistryCall) :
    ∀ {b : RegistryBuilder}, (calls.foldl call b).duplicates = [] →
      b.duplicates = [] ∧ (calls.filterMap RegistryCall.name?).Nodup ∧
        ∀ kind ∈ calls.filterMap RegistryCall.name?, b.factories.lookup kind = none := by
  induction calls with
  | nil => exact fun h => ⟨h, List.nodup_nil, fun kind hk => by cases hk⟩
  | cons c rest ih =>
      intro b h
      obtain ⟨hcall, hnodup, hnew⟩ := ih h
      obtain ⟨hdup, hown⟩ := call_duplicates_eq_nil hcall
      have hrest : ∀ kind ∈ rest.filterMap RegistryCall.name?,
          b.factories.lookup kind = none ∧ c.name? ≠ some kind :=
        fun kind hk => call_lookup_eq_none (hnew kind hk)
      cases hc : c.name? with
      | none =>
          rw [List.filterMap_cons_none hc]
          exact ⟨hdup, hnodup, fun kind hk => (hrest kind hk).1⟩
      | some own =>
          rw [List.filterMap_cons_some hc]
          refine ⟨hdup, List.nodup_cons.mpr ⟨fun hk => (hrest own hk).2 hc, hnodup⟩, ?_⟩
          intro kind hk
          rcases List.mem_cons.mp hk with rfl | hk
          · exact hown kind hc
          · exact (hrest kind hk).1

/-! ## The check at the end -/

theorem checkBinding_eq_ok {b : RegistryBuilder} {kind : String}
    (h : b.checkBinding kind = .ok ()) :
    ∃ factory, b.factories.lookup kind = some factory ∧
      (factory "").isDomain = true := by
  rw [checkBinding] at h
  split at h
  · cases h
  · rename_i factory hf
    split at h
    · rename_i hd
      exact ⟨factory, hf, hd⟩
    · cases h

theorem checkBinding_of_domain {b : RegistryBuilder} {kind : String} {factory : Factory}
    (hf : b.factories.lookup kind = some factory)
    (hd : (factory "").isDomain = true) : b.checkBinding kind = .ok () := by
  rw [checkBinding, hf]
  exact if_pos hd

theorem checkRoles_eq_ok {b : RegistryBuilder} {roles : List Role} :
    ∀ {events : List Log.Event}, b.checkRoles roles = (.ok (), events) →
      ∀ role ∈ roles, ∀ kind, b.bindings.get? role = some kind →
        b.checkBinding kind = .ok () := by
  induction roles with
  | nil => intro events h role hm; cases hm
  | cons first rest ih =>
      intro events h role hm kind hk
      rw [checkRoles] at h
      cases hb : b.bindings.get? first with
      | none =>
          rw [hb] at h
          rcases List.mem_cons.mp hm with rfl | hm
          · rw [hb] at hk; cases hk
          · exact ih h role hm kind hk
      | some bound =>
          rw [hb] at h
          simp only [] at h
          cases hc : b.checkBinding bound with
          | error e => rw [hc] at h; cases h
          | ok _ =>
              rw [hc] at h
              simp only [] at h
              rcases List.mem_cons.mp hm with rfl | hm
              · rw [hb] at hk
                injection hk with hk
                subst hk
                exact hc
              · injection h with hrest _
                exact ih (Prod.ext hrest rfl) role hm kind hk

/-- Roles that pass are told of, and what follows is decided by the others. -/
theorem checkRoles_append {b : RegistryBuilder} {before : List Role} (rest : List Role)
    (h : ∀ role ∈ before, ∀ kind, b.bindings.get? role = some kind →
      b.checkBinding kind = .ok ()) :
    b.checkRoles (before ++ rest) = ((b.checkRoles rest).1,
      (before.filterMap fun role => (b.bindings.get? role).map (boundEvent role)) ++
        (b.checkRoles rest).2) := by
  induction before with
  | nil => rfl
  | cons role before ih =>
      have ih := ih fun other hm => h other (List.mem_cons_of_mem _ hm)
      rw [List.cons_append, checkRoles]
      cases hk : b.bindings.get? role with
      | none =>
          rw [List.filterMap_cons_none (by rw [hk]; rfl)]
          exact ih
      | some kind =>
          rw [List.filterMap_cons_some (by rw [hk]; rfl)]
          simp only [h role List.mem_cons_self kind hk, ih, List.cons_append]

theorem checkRoles_events {b : RegistryBuilder} {roles : List Role} :
    ∀ event ∈ (b.checkRoles roles).2, ∃ role kind, event = boundEvent role kind := by
  induction roles with
  | nil => intro event he; cases he
  | cons first rest ih =>
      intro event he
      rw [checkRoles] at he
      cases hb : b.bindings.get? first with
      | none =>
          rw [hb] at he
          exact ih event he
      | some kind =>
          rw [hb] at he
          simp only [] at he
          cases hc : b.checkBinding kind with
          | error e => rw [hc] at he; cases he
          | ok _ =>
              rw [hc] at he
              rcases List.mem_cons.mp he with rfl | he
              · exact ⟨first, kind, rfl⟩
              · exact ih event he

/-- Nothing is logged by building but that roles were bound. -/
theorem build_events {b : RegistryBuilder} :
    ∀ event ∈ b.build.2, ∃ role kind, event = boundEvent role kind := by
  intro event he
  rw [build] at he
  split at he
  · cases he
  · split at he <;> rename_i hr
    · exact checkRoles_events event (by rw [hr]; exact he)
    · exact checkRoles_events event (by rw [hr]; exact he)

/-- A registry that was built holds what the builder held, no name was taken
twice on the way, and every kind that is bound has passed its check. -/
theorem build_eq_ok {b : RegistryBuilder} {reg : Registry}
    {events : List Log.Event} (h : b.build = (.ok reg, events)) :
    reg = ⟨b.factories, b.bindings⟩ ∧ b.duplicates = [] ∧
      ∀ role kind, b.bindings.get? role = some kind →
        b.checkBinding kind = .ok () := by
  rw [build] at h
  split at h
  · cases h
  · rename_i hdup
    split at h
    · cases h
    · rename_i hr
      injection h with h _
      injection h with h
      exact ⟨h.symm, hdup, fun role => checkRoles_eq_ok hr role role.mem_all⟩

theorem build_of_checkRoles {b : RegistryBuilder} {events : List Log.Event}
    (hdup : b.duplicates = []) (h : b.checkRoles Role.all = (.ok (), events)) :
    b.build = (.ok ⟨b.factories, b.bindings⟩, events) := by
  rw [build, hdup, h]

/-- A builder in which the default kinds are still the built-in ones. Every
sequence of calls on a fresh builder ends in one. -/
def KeepsDefaults (b : RegistryBuilder) : Prop :=
  ∀ role : Role, b.factories.lookup role.defaultKind =
    some fun message => (role.builtin message).toFault

/-- The kind of a role is registered in every registry that was built, and its
factory yields a domain fault for the empty message. -/
theorem built_factory?_resolveRole {b : RegistryBuilder} {reg : Registry}
    {events : List Log.Event} (hb : b.KeepsDefaults)
    (h : b.build = (.ok reg, events)) (role : Role) :
    ∃ factory, reg.factory? (reg.resolveRole role) = some factory ∧
      (factory "").isDomain = true := by
  obtain ⟨rfl, _, hcheck⟩ := build_eq_ok h
  simp only [Registry.factory?, Registry.resolveRole, Registry.resolve]
  cases hk : b.bindings.get? role with
  | none => exact ⟨_, hb role, rfl⟩
  | some kind => exact checkBinding_eq_ok (hcheck role kind hk)

/-- What can still go wrong when the kind of a role is instantiated: its
factory yields a domain fault for the empty message, and none for this one. -/
theorem built_instantiate_error {b : RegistryBuilder} {reg : Registry}
    {events : List Log.Event} (hb : b.KeepsDefaults)
    (h : b.build = (.ok reg, events)) {role : Role} {message : String}
    {e : RegistryError}
    (he : reg.instantiate (reg.resolveRole role) message = .error e) :
    e = .unresolvable (reg.resolveRole role) .notDomain ∧
      ∃ factory, reg.factory? (reg.resolveRole role) = some factory ∧
        (factory "").isDomain = true ∧ (factory message).isDomain = false := by
  obtain ⟨factory, hf, hempty⟩ := built_factory?_resolveRole hb h role
  rcases Registry.instantiate_error he with ⟨_, hnone⟩ | ⟨he, factory', hf', hd⟩
  · rw [hf] at hnone; cases hnone
  · rw [hf] at hf'
    injection hf' with hf'
    subst hf'
    exact ⟨he, factory, hf, hempty, hd⟩

theorem ofCalls_keepsDefaults (calls : List RegistryCall) :
    (ofCalls calls).KeepsDefaults :=
  ofCalls_lookup_defaultKind calls

end RegistryBuilder

end FaultGate
