import FaultGate.Proofs.Kinds
import FaultGate.Proofs.Text.ByteOrder

/-!
# Three ways of asking for a kind

A registry can be asked which kinds it has, whether it has a certain one, and to
make a fault of it. The three are read off one list of factories, so what has to
be said is what that list comes to after any calls on a builder. A registry that
was built records its calls: a name has the factory that it was registered with,
and every name has one, because no name came twice.

The listing is the only one of the three that could depend on the order of the
calls, and it does not. A list in strict order is determined by what is in it.
-/

namespace FaultGate

theorem Role.builtin_mem_builtins (role : Role) :
    (role.defaultKind, fun message => (role.builtin message).toFault) ∈ builtins := by
  cases role with
  | maintenance => exact List.mem_cons_self
  | serverInternalError => exact List.mem_cons_of_mem _ List.mem_cons_self

namespace Registry

variable {r : Registry} {kind message : String}

theorem kinds_eq_of_mem_iff {other : Registry} (hr : (r.factories.map Prod.fst).Nodup)
    (hother : (other.factories.map Prod.fst).Nodup)
    (h : ∀ kind, kind ∈ other.kinds ↔ kind ∈ r.kinds) : other.kinds = r.kinds := by
  have hperm : other.kinds.Perm r.kinds :=
    (List.perm_ext_iff_of_nodup ((List.mergeSort_perm _ _).nodup_iff.mpr hother)
      ((List.mergeSort_perm _ _).nodup_iff.mpr hr)).mpr h
  exact hperm.eq_of_pairwise (fun a b _ _ hab hba => String.le_antisymm hab hba)
    other.kinds_pairwise_le r.kinds_pairwise_le

/-- What is handed out is what the factory made, and only if that is a domain
fault. -/
theorem instantiate_eq_ok_iff {fault : Fault} :
    (r.instantiate kind message).map Fault.domain = .ok fault ↔
      fault.isDomain = true ∧
        ∃ factory, r.factory? kind = some factory ∧ factory message = fault := by
  constructor
  · intro h
    rw [instantiate] at h
    split at h
    · cases h
    · rename_i factory hfactory
      split at h
      · rename_i own hown
        injection h with h
        subst h
        exact ⟨rfl, factory, hfactory, hown⟩
      · cases h
  · rintro ⟨hdomain, factory, hfactory, rfl⟩
    cases hfault : factory message with
    | domain own => rw [instantiate_of_domain hfactory hfault, Except.map]
    | maintenance signal => rw [hfault] at hdomain; cases hdomain
    | unknown e => rw [hfault] at hdomain; cases hdomain

theorem instantiate_eq_notDomain_iff :
    r.instantiate kind message = .error (.unresolvable kind .notDomain) ↔
      ∃ factory, r.factory? kind = some factory ∧ (factory message).isDomain = false := by
  constructor
  · intro h
    rcases instantiate_error h with ⟨hother, _⟩ | ⟨_, hfactory⟩
    · cases hother
    · exact hfactory
  · rintro ⟨factory, hfactory, hother⟩
    exact instantiate_of_not_domain hfactory hother

/-- A message makes no difference to whether a kind is found. -/
theorem instantiate_eq_notRegistered_iff {name : String} :
    r.instantiate kind message = .error (.unresolvable name .notRegistered) ↔
      name = kind ∧ r.contains kind = false := by
  rw [contains, Option.isSome_eq_false_iff, Option.isNone_iff_eq_none]
  constructor
  · intro h
    rcases instantiate_error h with ⟨heq, hnone⟩ | ⟨heq, _⟩
    · injection heq with heq _
      exact ⟨heq, hnone⟩
    · cases heq
  · rintro ⟨rfl, hnone⟩
    exact instantiate_of_factory?_eq_none hnone message

end Registry

namespace RegistryBuilder

variable {calls : List RegistryCall} {reg : Registry} {events : List Log.Event}

theorem noneRepeated_of_build (h : (ofCalls calls).build = (.ok reg, events)) :
    NoneRepeated calls := by
  refine (firstRepeated_or_noneRepeated calls).resolve_left ?_
  rintro ⟨kind, hkind⟩
  rw [build_of_firstRepeated hkind] at h
  cases h

theorem factory?_of_build (h : (ofCalls calls).build = (.ok reg, events)) {kind : String}
    {factory : Factory} : reg.factory? kind = some factory ↔ Registers calls kind factory := by
  obtain ⟨rfl, _, _⟩ := build_eq_ok h
  exact lookup_eq_some_iff_registers (noneRepeated_of_build h)

/-- The order of the calls has no say in which names are taken in the end. -/
theorem taken_iff_of_perm {other : List RegistryCall} (h : other.Perm calls) {kind : String} :
    Taken other kind ↔ Taken calls kind := by
  have hregistrations : (registrations other).Perm (registrations calls) :=
    (h.filterMap RegistryCall.registered?).append_left builtins
  exact (hregistrations.map Prod.fst).mem_iff

/-- The kind is built in, or a call declares it by a code and a status. -/
inductive Declares (calls : List RegistryCall) : String → Prop
  | builtIn (role : Role) : Declares calls role.defaultKind
  | declared {kind : String} {code : ErrorCode} {status : Status}
    (h : .declare kind code status ∈ calls) : Declares calls kind

/-- What a declared kind is registered with keeps the name and the message. -/
theorem Declares.exists_fault {kind : String} (h : Declares calls kind) (message : String) :
    ∃ factory fault, Registers calls kind factory ∧ factory message = .domain fault ∧
      fault.kind = kind ∧ fault.message = message := by
  cases h with
  | builtIn role =>
      have hregistered := List.mem_append_left (calls.filterMap RegistryCall.registered?)
        role.builtin_mem_builtins
      cases role with
      | maintenance => exact ⟨_, _, hregistered, rfl, rfl, rfl⟩
      | serverInternalError => exact ⟨_, _, hregistered, rfl, rfl, rfl⟩
  | @declared kind code status h =>
      have hregistered : (kind, Factory.declared kind code status) ∈
          calls.filterMap RegistryCall.registered? := List.mem_filterMap.mpr ⟨_, h, rfl⟩
      exact ⟨_, _, List.mem_append_right _ hregistered, rfl, rfl, rfl⟩

/-- The views of a registry that was built by any calls. Its listing is in strict
order of the bytes, holds the names that are built in or were registered and no
others, and is the same for all calls that come to the same names. A kind is
listed, is found and does not fail for want of a registration, all three or none
of them. Only domain faults are handed out, as the factory of the kind made them,
and a kind that is built in or declared always yields one, under its own name and
with the message that was asked for. -/
theorem views_told_by_calls (h : (ofCalls calls).build = (.ok reg, events)) :
    (reg.kinds.Pairwise fun a b => Text.utf8 a < Text.utf8 b) ∧
    (∀ kind, kind ∈ reg.kinds ↔ Taken calls kind) ∧
    (∀ other reg' events', (ofCalls other).build = (.ok reg', events') →
      (∀ kind, Taken other kind ↔ Taken calls kind) → reg'.kinds = reg.kinds) ∧
    (∀ kind, (kind ∈ reg.kinds ↔ reg.contains kind = true) ∧
      (reg.contains kind = true ↔ ∀ message name,
        reg.instantiate kind message ≠ .error (.unresolvable name .notRegistered))) ∧
    (∀ kind message fault, (reg.instantiate kind message).map Fault.domain = .ok fault ↔
      fault.isDomain = true ∧ ∃ factory, Registers calls kind factory ∧
        factory message = fault) ∧
    (∀ kind message, reg.instantiate kind message = .error (.unresolvable kind .notDomain) ↔
      ∃ factory, Registers calls kind factory ∧ (factory message).isDomain = false) ∧
    ∀ kind message, Declares calls kind → ∃ fault,
      reg.instantiate kind message = .ok fault ∧ fault.kind = kind ∧
        fault.message = message := by
  refine ⟨?_, ?_, ?_, ?_, ?_, ?_, ?_⟩
  · exact (Registry.kinds_pairwise_lt (names_nodup_of_build h)).imp Text.utf8_lt_of_lt
  · intro kind
    rw [Registry.mem_kinds_iff, contains_of_build h]
  · intro other reg' events' hother hnames
    refine Registry.kinds_eq_of_mem_iff (names_nodup_of_build h) (names_nodup_of_build hother)
      fun kind => ?_
    rw [Registry.mem_kinds_iff, Registry.mem_kinds_iff, contains_of_build h,
      contains_of_build hother, hnames]
  · intro kind
    refine ⟨Registry.mem_kinds_iff, ?_⟩
    simp only [ne_eq, Registry.instantiate_eq_notRegistered_iff, not_and, Bool.not_eq_false]
    exact ⟨fun hfound _ _ _ => hfound, fun hfound => hfound "" kind rfl⟩
  · intro kind message fault
    simp only [Registry.instantiate_eq_ok_iff, factory?_of_build h]
  · intro kind message
    simp only [Registry.instantiate_eq_notDomain_iff, factory?_of_build h]
  · intro kind message hdeclared
    obtain ⟨factory, fault, hregistered, hfault, hkind, hmessage⟩ :=
      hdeclared.exists_fault message
    exact ⟨fault, Registry.instantiate_of_domain ((factory?_of_build h).mpr hregistered) hfault,
      hkind, hmessage⟩

/-- A builder that was asked for nothing builds the registry of the built-in kinds. -/
example : (ofCalls []).build = (.ok .defaults, []) := rfl

/-- A kind that makes no domain fault stands beside two that are declared. -/
def mixed : List RegistryCall :=
  [.register "Plain" fun message => .unknown ⟨message, []⟩,
    .declare "École" .maintainMode .serviceUnavailable,
    .bind .maintenance "École",
    .declare "Zone" .internalError .internalServerError]

/-- A kind that is listed may still make nothing but faults of another sort. The
calls may as well come the other way round. -/
theorem views_told_by_calls_mixed :
    ∃ reg events, (ofCalls mixed).build = (.ok reg, events) ∧
      "Plain" ∈ reg.kinds ∧ "Ecole" ∉ reg.kinds ∧
      (∀ message, reg.instantiate "Plain" message =
        .error (.unresolvable "Plain" .notDomain)) ∧
      (∀ message, ∃ fault, reg.instantiate "École" message = .ok fault ∧
        fault.kind = "École" ∧ fault.message = message) ∧
      ∃ reg' events', (ofCalls mixed.reverse).build = (.ok reg', events') ∧
        reg'.kinds = reg.kinds := by
  have hmixed : (ofCalls mixed).build = (.ok ⟨(ofCalls mixed).factories,
      (ofCalls mixed).bindings⟩, [boundEvent .maintenance "École"]) := rfl
  have hreverse : (ofCalls mixed.reverse).build = (.ok ⟨(ofCalls mixed.reverse).factories,
      (ofCalls mixed.reverse).bindings⟩, [boundEvent .maintenance "École"]) := rfl
  have hperm := List.reverse_perm mixed
  obtain ⟨_, hlisted, hsame, _, _, hother, hdeclared⟩ := views_told_by_calls hmixed
  refine ⟨_, _, hmixed, (hlisted "Plain").mpr ?_, fun h => ?_, fun message => ?_,
    fun message => ?_, _, _, hreverse, hsame _ _ _ hreverse fun _ => taken_iff_of_perm hperm⟩
  · show "Plain" ∈ _
    decide
  · have hmem : "Ecole" ∈ _ := (hlisted "Ecole").mp h
    revert hmem
    decide
  · exact (hother "Plain" message).mpr ⟨_, List.mem_append_right _ List.mem_cons_self, rfl⟩
  · exact hdeclared "École" message (.declared (List.mem_cons_of_mem _ List.mem_cons_self))

end RegistryBuilder

end FaultGate
