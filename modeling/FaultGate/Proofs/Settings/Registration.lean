import FaultGate.Proofs.CallHistory
import FaultGate.Proofs.Settings.Validation
import FaultGate.Proofs.SteadyKinds

/-!
# What settings come to when a registry is made of them

Three checks stand between settings and their registry, and none of them knows of the
others. The status of a declared fault is converted when the fault is registered, a
name that is taken is put on a list and complained of at the end, and the kinds that
the roles are bound to come last. So a bad status is told before a name that came again
further up, and a name before any role, whatever the order in the file.

The settings make calls on a builder like anybody else, and what a builder comes to is
known in terms of the calls. What is left to do here is to say the same in terms of
the declarations. The one condition for this is that every declaration makes its call,
which is what the first check is about; from there on, the names that are taken are the
built-in ones and those of the declarations that came before.

The check for plausibility has ranges and a notion of a repeated name of its own. It is
the stricter one in both, and it knows nothing of built-in names or of roles, so exactly
these two can still go wrong with settings that passed it.
-/

namespace FaultGate.Settings

open RegistryBuilder (Accepted FirstRefused FirstRepeated NoneRepeated Recorded Refused Registers
  Taken lastBound ofCalls registrations)

/-- The kind is built in, or one of the declarations has its name. -/
def Known (faults : List FaultDefinition) (kind : String) : Prop :=
  kind = maintainModeKind ∨ kind = serverInternalErrorKind ∨ ∃ d ∈ faults, d.name = kind

/-- The status is a number of three digits. -/
def FaultDefinition.HasStatus (d : FaultDefinition) : Prop :=
  100 ≤ d.status.toNat ∧ d.status.toNat ≤ 999

instance (faults : List FaultDefinition) (kind : String) : Decidable (Known faults kind) :=
  inferInstanceAs (Decidable (_ ∨ _ ∨ _))

instance (d : FaultDefinition) : Decidable d.HasStatus :=
  inferInstanceAs (Decidable (_ ∧ _))

/-- What can be wrong with a declaration when it is registered. -/
def StatusWrong (_ : List FaultDefinition) (d : FaultDefinition) : Prop :=
  ¬ d.HasStatus

def NameTaken (before : List FaultDefinition) (d : FaultDefinition) : Prop :=
  Known before d.name

namespace Handler

/-- The role is bound to a kind that is neither built in nor declared. -/
def BoundToUnknown (h : Handler) (_ : List Role) (role : Role) : Prop :=
  ∃ kind, h.bindings.get? role = some kind ∧ ¬ Known h.faults kind

def boundEvents (h : Handler) (roles : List Role) : List Log.Event :=
  roles.filterMap fun role => (h.bindings.get? role).map (RegistryBuilder.boundEvent role)

/-- The registry yields each declared fault as it was declared, whatever the message, and
a role stands for what the settings bind it to. -/
structure Describes (h : Handler) (reg : Registry) : Prop where
  declared : ∀ d ∈ h.faults, ∃ status : Status, status.code = d.status.toNat ∧
    ∀ message, reg.instantiate d.name message =
      .ok (ApiFault.toDomain { kind := d.name, code := ⟨d.code⟩, status, message, details := [] })
  roles : ∀ role, reg.resolveRole role = (h.bindings.get? role).getD role.defaultKind

end Handler

/-! ## Declarations as calls -/

theorem FaultDefinition.exists_call {d : FaultDefinition} (h : d.HasStatus) :
    ∃ status : Status, status.code = d.status.toNat ∧
      Status.ofNat? d.status.toNat = some status ∧
      d.call? = some (.declare d.name ⟨d.code⟩ status) := by
  have hstatus : Status.ofNat? d.status.toNat = some ⟨d.status.toNat, h⟩ := dif_pos h
  refine ⟨_, rfl, hstatus, ?_⟩
  rw [call?, hstatus]
  rfl

section Declared

variable {faults before : List FaultDefinition} {d : FaultDefinition} {kind : String}

theorem noneWrong_status_iff :
    NoneWrong StatusWrong faults ↔ ∀ d ∈ faults, d.HasStatus := by
  rw [show StatusWrong = fun _ d => ¬ d.HasStatus from rfl, noneWrong_iff_forall]
  simp only [not_not]

theorem Handler.declareAll_append (hs : ∀ d ∈ before, d.HasStatus)
    (rest : List FaultDefinition) :
    ∀ b, declareAll b (before ++ rest) =
      declareAll ((before.filterMap FaultDefinition.call?).foldl RegistryBuilder.call b) rest := by
  induction before with
  | nil => exact fun _ => rfl
  | cons d before ih =>
      intro b
      have ih := ih fun other hm => hs other (List.mem_cons_of_mem d hm)
      obtain ⟨status, _, hstatus, hcall⟩ := d.exists_call (hs d List.mem_cons_self)
      rw [List.cons_append, declareAll, hstatus, List.filterMap_cons_some hcall, List.foldl_cons]
      exact ih _

theorem Handler.declareAll_of_hasStatus (hs : ∀ d ∈ faults, d.HasStatus) (b : RegistryBuilder) :
    declareAll b faults =
      .ok ((faults.filterMap FaultDefinition.call?).foldl RegistryBuilder.call b) := by
  have h := declareAll_append hs [] b
  rw [List.append_nil] at h
  exact h

/-- The names that are taken after some declarations. -/
theorem taken_iff_known (hs : ∀ d ∈ faults, d.HasStatus) :
    Taken (faults.filterMap FaultDefinition.call?) kind ↔ Known faults kind := by
  have hnames := Handler.declareAll_names (Handler.declareAll_of_hasStatus hs .empty)
  rw [funext RegistryCall.name?_eq, ← List.map_filterMap] at hnames
  have hbuiltins : builtins.map Prod.fst = [maintainModeKind, serverInternalErrorKind] := rfl
  rw [Taken, registrations, List.map_append, hnames, hbuiltins, Known]
  simp only [List.mem_append, List.mem_cons, List.not_mem_nil, or_false, List.mem_map, or_assoc]

theorem noneRepeated_iff (hs : ∀ d ∈ faults, d.HasStatus) :
    NoneRepeated (faults.filterMap FaultDefinition.call?) ↔ NoneWrong NameTaken faults := by
  induction faults using List.reverseRecOn with
  | nil => exact iff_of_true RegistryBuilder.noneRepeated_nil noneWrong_nil
  | append_singleton faults d ih =>
      have hfaults : ∀ d ∈ faults, d.HasStatus :=
        fun other hm => hs other (List.mem_append_left _ hm)
      obtain ⟨status, _, _, hcall⟩ :=
        d.exists_call (hs d (List.mem_append_right _ (List.mem_singleton_self d)))
      rw [List.filterMap_append, List.filterMap_cons_some hcall, List.filterMap_nil,
        RegistryBuilder.noneRepeated_snoc, noneWrong_snoc, ih hfaults, NameTaken,
        ← taken_iff_known hfaults]
      refine and_congr_right fun _ => ?_
      constructor
      · intro h
        exact h d.name rfl
      · intro h own hown
        injection hown with hown
        rw [← hown]
        exact h

end Declared

/-! ## The calls of settings -/

namespace Handler

variable {h : Handler} {kind : String} {role : Role}

/-- What the settings call after the declarations. -/
theorem exists_calls (h : Handler) : ∃ binds,
    h.calls = h.faults.filterMap FaultDefinition.call? ++ binds ∧
      ∀ c ∈ binds, c.registered? = none := by
  refine ⟨_, rfl, fun c hc => ?_⟩
  obtain ⟨role, _, hrole⟩ := List.mem_filterMap.mp hc
  obtain ⟨kind, _, rfl⟩ := Option.map_eq_some_iff.mp hrole
  rfl

theorem registrations_calls (h : Handler) :
    registrations h.calls = registrations (h.faults.filterMap FaultDefinition.call?) := by
  obtain ⟨binds, hcalls, hbinds⟩ := h.exists_calls
  rw [registrations, registrations, hcalls, List.filterMap_append,
    List.filterMap_eq_nil_iff.mpr hbinds, List.append_nil]

theorem exists_registers_iff (hs : ∀ d ∈ h.faults, d.HasStatus) :
    (∃ factory, Registers h.calls kind factory) ↔ Known h.faults kind := by
  rw [← taken_iff_known hs, Taken, List.mem_map, ← registrations_calls]
  constructor
  · rintro ⟨factory, hregistered⟩
    exact ⟨(kind, factory), hregistered, rfl⟩
  · rintro ⟨⟨own, factory⟩, hregistered, rfl⟩
    exact ⟨factory, hregistered⟩

/-- Whatever settings register yields domain faults. -/
theorem isDomain_of_registers {factory : Factory} (hr : Registers h.calls kind factory)
    (message : String) : (factory message).isDomain = true := by
  rw [Registers, registrations, List.mem_append, List.mem_filterMap] at hr
  rcases hr with hbuiltin | ⟨c, hc, hregistered⟩
  · simp only [builtins, List.mem_cons, List.not_mem_nil, or_false, Prod.mk.injEq] at hbuiltin
    rcases hbuiltin with ⟨_, rfl⟩ | ⟨_, rfl⟩ <;> rfl
  · cases c with
    | register own ownFactory => exact absurd hc (h.not_register_mem_calls own ownFactory)
    | declare own code status =>
        injection hregistered with hregistered
        injection hregistered with _ hfactory
        rw [← hfactory]
        rfl
    | bind own bound => cases hregistered

theorem noneRepeated_append {calls binds : List RegistryCall} (hc : NoneRepeated calls)
    (hb : ∀ c ∈ binds, c.registered? = none) : NoneRepeated (calls ++ binds) := by
  induction binds using List.reverseRecOn with
  | nil =>
      rw [List.append_nil]
      exact hc
  | append_singleton binds c ih =>
      have hown := hb c (List.mem_append_right _ (List.mem_singleton_self c))
      rw [← List.append_assoc, RegistryBuilder.noneRepeated_snoc]
      refine ⟨ih fun other hm => hb other (List.mem_append_left _ hm), fun kind hname => ?_⟩
      rw [RegistryCall.name?_eq, hown] at hname
      cases hname

theorem noneRepeated_calls (hs : ∀ d ∈ h.faults, d.HasStatus)
    (hn : NoneWrong NameTaken h.faults) : NoneRepeated h.calls := by
  obtain ⟨binds, hcalls, hbinds⟩ := h.exists_calls
  rw [hcalls]
  exact noneRepeated_append ((noneRepeated_iff hs).mpr hn) hbinds

theorem firstRepeated_calls (hs : ∀ d ∈ h.faults, d.HasStatus)
    {before : List FaultDefinition} {d : FaultDefinition}
    (hd : FirstWrong NameTaken h.faults before d) : FirstRepeated h.calls d.name := by
  obtain ⟨binds, hcalls, _⟩ := h.exists_calls
  obtain ⟨⟨after, hsplit⟩, htaken, hnone⟩ := hd
  rw [hsplit] at hs
  have hbefore : ∀ d ∈ before, d.HasStatus := fun other hm => hs other (List.mem_append_left _ hm)
  obtain ⟨status, _, _, hcall⟩ :=
    d.exists_call (hs d (List.mem_append_right _ List.mem_cons_self))
  refine ⟨before.filterMap FaultDefinition.call?, .declare d.name ⟨d.code⟩ status,
    after.filterMap FaultDefinition.call? ++ binds, ?_, rfl, (taken_iff_known hbefore).mpr htaken,
    (noneRepeated_iff hbefore).mpr hnone⟩
  rw [hcalls, hsplit, List.filterMap_append, List.filterMap_cons_some hcall, List.append_assoc,
    List.cons_append]

theorem ofCalls_calls (hs : ∀ d ∈ h.faults, d.HasStatus) :
    ∃ b, declareAll .empty h.faults = .ok b ∧ h.bindAll b = ofCalls h.calls := by
  refine ⟨_, declareAll_of_hasStatus hs .empty, ?_⟩
  rw [bindAll_eq_foldl, ofCalls, calls, List.foldl_append]

theorem lastBound_calls (hs : ∀ d ∈ h.faults, d.HasStatus) (role : Role) :
    lastBound h.calls role = h.bindings.get? role := by
  obtain ⟨b, hb, hbind⟩ := ofCalls_calls hs
  rw [← RegistryBuilder.ofCalls_bindings, ← hbind]
  exact bindAll_get? h (declareAll_bindings hb) role

theorem boundEvents_calls (hs : ∀ d ∈ h.faults, d.HasStatus) (roles : List Role) :
    RegistryBuilder.boundEvents h.calls roles = h.boundEvents roles := by
  simp only [RegistryBuilder.boundEvents, boundEvents, lastBound_calls hs]

theorem noneWrong_bound_iff {roles : List Role} :
    NoneWrong h.BoundToUnknown roles ↔
      ∀ role ∈ roles, ∀ kind, h.bindings.get? role = some kind → Known h.faults kind := by
  rw [show h.BoundToUnknown = fun _ role => ∃ kind, h.bindings.get? role = some kind ∧
    ¬ Known h.faults kind from rfl, noneWrong_iff_forall]
  simp only [not_exists, not_and, not_not]

theorem accepted_calls (hs : ∀ d ∈ h.faults, d.HasStatus)
    (hr : ∀ kind, h.bindings.get? role = some kind → Known h.faults kind) :
    Accepted h.calls role := by
  intro kind hk
  rw [lastBound_calls hs] at hk
  obtain ⟨factory, hregistered⟩ := (exists_registers_iff hs).mpr (hr kind hk)
  exact ⟨factory, hregistered, isDomain_of_registers hregistered ""⟩

theorem firstRefused_calls (hs : ∀ d ∈ h.faults, d.HasStatus) {before : List Role}
    (hr : FirstWrong h.BoundToUnknown Role.all before role)
    (hk : h.bindings.get? role = some kind) :
    FirstRefused h.calls before kind .notRegistered := by
  obtain ⟨⟨after, hsplit⟩, ⟨own, hown, hunknown⟩, hnone⟩ := hr
  rw [hk] at hown
  injection hown with hown
  subst hown
  refine ⟨role, after, hsplit, fun other hm => ?_, ?_, .notRegistered fun factory hregistered => ?_⟩
  · exact accepted_calls hs (noneWrong_bound_iff.mp hnone other hm)
  · rw [lastBound_calls hs, hk]
  · exact hunknown ((exists_registers_iff hs).mp ⟨factory, hregistered⟩)

theorem registers_of_mem (hs : ∀ d ∈ h.faults, d.HasStatus) {d : FaultDefinition}
    (hd : d ∈ h.faults) : ∃ status : Status, status.code = d.status.toNat ∧
      Registers h.calls d.name (.declared d.name ⟨d.code⟩ status) := by
  obtain ⟨status, hcode, _, hcall⟩ := d.exists_call (hs d hd)
  refine ⟨status, hcode, List.mem_append_right _ (List.mem_filterMap.mpr ?_)⟩
  exact ⟨_, List.mem_append_left _ (List.mem_filterMap.mpr ⟨d, hd, hcall⟩), rfl⟩

/-! ## What is built -/

theorem buildRegistry_of_wrong_status {before : List FaultDefinition} {d : FaultDefinition}
    (hd : FirstWrong StatusWrong h.faults before d) :
    h.buildRegistry = (.error (.violation (.statusNotHttp d.name d.status.toNat)), []) := by
  obtain ⟨⟨after, hsplit⟩, hwrong, hbefore⟩ := hd
  have hnone : Status.ofNat? d.status.toNat = none := Status.ofNat?_eq_none_iff.mpr hwrong
  have hdeclare : declareAll .empty h.faults =
      .error (.statusNotHttp d.name d.status.toNat) := by
    rw [hsplit, declareAll_append (noneWrong_status_iff.mp hbefore), declareAll, hnone]
  rw [buildRegistry, hdeclare]

/-- Once every declaration has made its call, the builder decides. -/
theorem buildRegistry_of_build (hs : ∀ d ∈ h.faults, d.HasStatus)
    {result : Except RegistryError Registry} {events : List Log.Event}
    (hb : (ofCalls h.calls).build = (result, events)) :
    h.buildRegistry = (result.mapError .registry, events) := by
  obtain ⟨b, hdeclare, hbind⟩ := ofCalls_calls hs
  rw [buildRegistry, hdeclare]
  simp only [hbind, hb]
  cases result with
  | error e => rfl
  | ok reg => rfl

theorem buildRegistry_of_taken_name (hs : ∀ d ∈ h.faults, d.HasStatus)
    {before : List FaultDefinition} {d : FaultDefinition}
    (hd : FirstWrong NameTaken h.faults before d) :
    h.buildRegistry = (.error (.registry (.duplicate d.name)), []) :=
  buildRegistry_of_build hs (RegistryBuilder.build_of_firstRepeated (firstRepeated_calls hs hd))

theorem buildRegistry_of_unknown_kind (hs : ∀ d ∈ h.faults, d.HasStatus)
    (hn : NoneWrong NameTaken h.faults) {before : List Role}
    (hr : FirstWrong h.BoundToUnknown Role.all before role)
    (hk : h.bindings.get? role = some kind) :
    h.buildRegistry =
      (.error (.registry (.unresolvable kind .notRegistered)), h.boundEvents before) := by
  rw [← boundEvents_calls hs]
  exact buildRegistry_of_build hs
    (RegistryBuilder.build_of_firstRefused (noneRepeated_calls hs hn) (firstRefused_calls hs hr hk))

theorem describes_of_recorded (hs : ∀ d ∈ h.faults, d.HasStatus) {reg : Registry}
    (hreg : Recorded h.calls reg) : h.Describes reg := by
  constructor
  · intro d hd
    obtain ⟨status, hcode, hregistered⟩ := registers_of_mem hs hd
    refine ⟨status, hcode, fun message => ?_⟩
    exact Registry.instantiate_of_domain ((hreg.factories _ _).mpr hregistered) rfl
  · intro role
    rw [← lastBound_calls hs]
    exact hreg.roles role role.defaultKind

theorem buildRegistry_of_none_wrong (hs : ∀ d ∈ h.faults, d.HasStatus)
    (hn : NoneWrong NameTaken h.faults) (hr : NoneWrong h.BoundToUnknown Role.all) :
    ∃ reg, h.buildRegistry = (.ok reg, h.boundEvents Role.all) ∧ h.Describes reg := by
  obtain ⟨reg, hbuild, hreg⟩ := RegistryBuilder.build_of_accepted (noneRepeated_calls hs hn)
    fun role => accepted_calls hs (noneWrong_bound_iff.mp hr role role.mem_all)
  rw [boundEvents_calls hs] at hbuild
  exact ⟨reg, buildRegistry_of_build hs hbuild, describes_of_recorded hs hreg⟩

theorem buildRegistry_fails_iff (hs : ∀ d ∈ h.faults, d.HasStatus) :
    (∃ e events, h.buildRegistry = (.error e, events)) ↔
      ¬ (NoneWrong NameTaken h.faults ∧ NoneWrong h.BoundToUnknown Role.all) := by
  constructor
  · rintro ⟨e, events, he⟩ ⟨hn, hr⟩
    obtain ⟨reg, hreg, _⟩ := buildRegistry_of_none_wrong hs hn hr
    rw [hreg] at he
    cases he
  · intro hwrong
    rcases firstWrong_or_noneWrong NameTaken h.faults with ⟨before, d, hd⟩ | hn
    · exact ⟨_, _, buildRegistry_of_taken_name hs hd⟩
    · rcases firstWrong_or_noneWrong h.BoundToUnknown Role.all with ⟨before, role, hr⟩ | hr
      · obtain ⟨kind, hk, _⟩ := hr.wrong
        exact ⟨_, _, buildRegistry_of_unknown_kind hs hn hr hk⟩
      · exact absurd ⟨hn, hr⟩ hwrong

theorem buildRegistry_ne_violation (hs : ∀ d ∈ h.faults, d.HasStatus) (v : Violation)
    (events : List Log.Event) : h.buildRegistry ≠ (.error (.violation v), events) := by
  intro heq
  cases hbuild : (ofCalls h.calls).build with
  | mk result told =>
      rw [buildRegistry_of_build hs hbuild] at heq
      injection heq with hresult _
      cases result with
      | error e => cases hresult
      | ok reg => cases hresult

end Handler

/-! ## Settings that passed the check for plausibility -/

/-- Among names that differ, only a built-in one can be taken. -/
theorem noneWrong_name_iff {faults : List FaultDefinition} (hn : (faults.map (·.name)).Nodup) :
    NoneWrong NameTaken faults ↔
      ∀ d ∈ faults, ¬ (d.name = maintainModeKind ∨ d.name = serverInternalErrorKind) := by
  constructor
  · intro h d hd hbuiltin
    obtain ⟨before, after, heq⟩ := List.append_of_mem hd
    exact h before d after heq (or_assoc.mp (Or.inl hbuiltin))
  · intro h before d after heq htaken
    rcases or_assoc.mpr htaken with hbuiltin | ⟨other, ho, hname⟩
    · exact h d (heq ▸ List.mem_append_right _ List.mem_cons_self) hbuiltin
    · rw [heq, List.map_append, List.map_cons, List.nodup_append] at hn
      exact hn.2.2 other.name (List.mem_map_of_mem ho) d.name List.mem_cons_self hname

namespace Handler

variable {h : Handler}

theorem faults_of_validate (hv : h.validate = .ok ()) :
    (∀ d ∈ h.faults, d.HasStatus) ∧ (h.faults.map (·.name)).Nodup := by
  have hfit := (validate_eq_ok_iff.mp hv).faults
  constructor
  · refine noneWrong_status_iff.mp (hfit.mono fun before d hstatus => ?_)
    refine Or.inr (Or.inr (Or.inl fun hrange => hstatus ⟨hrange.1, ?_⟩))
    omega
  · refine noneWrong_again_iff.mp (hfit.mono fun before d hagain => ?_)
    exact Or.inr (Or.inr (Or.inr hagain))

theorem buildRegistry_fails_iff_of_validate (hv : h.validate = .ok ()) :
    (∃ e events, h.buildRegistry = (.error e, events)) ↔
      (∃ d ∈ h.faults, d.name = maintainModeKind ∨ d.name = serverInternalErrorKind) ∨
        ∃ role kind, h.bindings.get? role = some kind ∧ ¬ Known h.faults kind := by
  obtain ⟨hs, hnodup⟩ := faults_of_validate hv
  have hroles : NoneWrong h.BoundToUnknown Role.all ↔
      ¬ ∃ role kind, h.bindings.get? role = some kind ∧ ¬ Known h.faults kind := by
    rw [noneWrong_bound_iff]
    simp only [not_exists, not_and, not_not, Role.mem_all, forall_true_left]
  rw [buildRegistry_fails_iff hs, noneWrong_name_iff hnodup, hroles, not_and_or, not_not]
  simp only [not_forall, not_not, exists_prop]

/-- What a registry is made of, and what stands in the way, in terms of the settings. A
status that is none is told before anything else, then a name that is built in or came
before, then a role that is bound to a kind nobody declared. One of these applies or there
is a registry, and it yields what was declared. Settings that passed the check for
plausibility fail for a built-in name or an unknown kind, and for nothing else. -/
theorem buildRegistry_told_by_settings (h : Handler) :
    (∀ before d, FirstWrong StatusWrong h.faults before d →
      h.buildRegistry = (.error (.violation (.statusNotHttp d.name d.status.toNat)), [])) ∧
    (NoneWrong StatusWrong h.faults → ∀ before d, FirstWrong NameTaken h.faults before d →
      h.buildRegistry = (.error (.registry (.duplicate d.name)), [])) ∧
    (NoneWrong StatusWrong h.faults → NoneWrong NameTaken h.faults →
      ∀ before role kind, FirstWrong h.BoundToUnknown Role.all before role →
        h.bindings.get? role = some kind →
        h.buildRegistry =
          (.error (.registry (.unresolvable kind .notRegistered)), h.boundEvents before)) ∧
    (NoneWrong StatusWrong h.faults → NoneWrong NameTaken h.faults →
      NoneWrong h.BoundToUnknown Role.all →
      ∃ reg, h.buildRegistry = (.ok reg, h.boundEvents Role.all) ∧ h.Describes reg) ∧
    ((∃ before d, FirstWrong StatusWrong h.faults before d) ∨
      NoneWrong StatusWrong h.faults ∧ ((∃ before d, FirstWrong NameTaken h.faults before d) ∨
        NoneWrong NameTaken h.faults ∧
          ((∃ before role, FirstWrong h.BoundToUnknown Role.all before role) ∨
            NoneWrong h.BoundToUnknown Role.all))) ∧
    (h.validate = .ok () →
      ((∃ e events, h.buildRegistry = (.error e, events)) ↔
        (∃ d ∈ h.faults, d.name = maintainModeKind ∨ d.name = serverInternalErrorKind) ∨
          ∃ role kind, h.bindings.get? role = some kind ∧ ¬ Known h.faults kind) ∧
      ∀ v events, h.buildRegistry ≠ (.error (.violation v), events)) := by
  refine ⟨?_, ?_, ?_, ?_, ?_, ?_⟩
  · intro before d hd
    exact buildRegistry_of_wrong_status hd
  · intro hs before d hd
    exact buildRegistry_of_taken_name (noneWrong_status_iff.mp hs) hd
  · intro hs hn before role kind hr hk
    exact buildRegistry_of_unknown_kind (noneWrong_status_iff.mp hs) hn hr hk
  · intro hs hn hr
    exact buildRegistry_of_none_wrong (noneWrong_status_iff.mp hs) hn hr
  · refine (firstWrong_or_noneWrong _ _).imp_right fun hs => ⟨hs, ?_⟩
    refine (firstWrong_or_noneWrong _ _).imp_right fun hn => ⟨hn, ?_⟩
    exact firstWrong_or_noneWrong _ _
  · intro hv
    exact ⟨buildRegistry_fails_iff_of_validate hv,
      buildRegistry_ne_violation (faults_of_validate hv).1⟩

/-- The settings of a shop that sells out. -/
def shop (faults : List FaultDefinition) (bindings : Bindings) : Handler where
  app := ⟨"shop", App.defaultEnvironment, false⟩
  scope := Resolver.defaultScope
  bindings := bindings
  faults := faults

def soldOut : FaultDefinition := ⟨"SoldOut", "SYS_SHOP_SOLD_OUT", 410⟩

theorem noneWrong_soldOut :
    NoneWrong StatusWrong [soldOut] ∧ NoneWrong NameTaken [soldOut] := by
  refine ⟨noneWrong_status_iff.mpr (by decide), ?_⟩
  exact (noneWrong_name_iff (by decide)).mpr (by decide)

/-- A status is told though a name came twice before it, and a name though a role is bound
to nothing. The role that comes first is told of before the one that fails. -/
theorem buildRegistry_told_by_settings_shop :
    (shop [soldOut, soldOut, ⟨"Odd", "SYS_SHOP_ODD", 99⟩] .none).buildRegistry =
      (.error (.violation (.statusNotHttp "Odd" 99)), []) ∧
    (shop [soldOut, ⟨maintainModeKind, "SYS_SHOP_CLOSED", 503⟩]
        ⟨some "Absent", none⟩).buildRegistry =
      (.error (.registry (.duplicate maintainModeKind)), []) ∧
    (shop [soldOut] ⟨some "SoldOut", some "Absent"⟩).buildRegistry =
      (.error (.registry (.unresolvable "Absent" .notRegistered)),
        [RegistryBuilder.boundEvent .maintenance "SoldOut"]) ∧
    (∃ reg, (shop [soldOut] ⟨some "SoldOut", none⟩).buildRegistry =
        (.ok reg, [RegistryBuilder.boundEvent .maintenance "SoldOut"]) ∧
      (shop [soldOut] ⟨some "SoldOut", none⟩).Describes reg) ∧
    (shop [soldOut] ⟨some "Absent", none⟩).validate = .ok () ∧
    ∃ e events, (shop [soldOut] ⟨some "Absent", none⟩).buildRegistry = (.error e, events) := by
  obtain ⟨hstatus, hname⟩ := noneWrong_soldOut
  have hbound : ∀ other, NoneWrong (shop [soldOut] ⟨some "SoldOut", other⟩).BoundToUnknown
      [.maintenance] := by
    intro other
    refine noneWrong_bound_iff.mpr fun role hrole kind hk => ?_
    rw [List.mem_singleton.mp hrole] at hk
    injection hk with hk
    subst hk
    show Known [soldOut] "SoldOut"
    decide
  refine ⟨?_, ?_, ?_, ?_, ?_⟩
  · have hsold : NoneWrong StatusWrong [soldOut, soldOut] :=
      noneWrong_status_iff.mpr (by decide)
    have hodd : ¬ FaultDefinition.HasStatus ⟨"Odd", "SYS_SHOP_ODD", 99⟩ := by decide
    exact (buildRegistry_told_by_settings (shop _ .none)).1 _ _ ⟨⟨[], rfl⟩, hodd, hsold⟩
  · have hall : NoneWrong StatusWrong [soldOut, ⟨maintainModeKind, "SYS_SHOP_CLOSED", 503⟩] :=
      noneWrong_status_iff.mpr (by decide)
    have htaken : NameTaken [soldOut] ⟨maintainModeKind, "SYS_SHOP_CLOSED", 503⟩ := Or.inl rfl
    exact (buildRegistry_told_by_settings (shop _ _)).2.1 hall _ _ ⟨⟨[], rfl⟩, htaken, hname⟩
  · refine (buildRegistry_told_by_settings _).2.2.1 hstatus hname [.maintenance]
      .serverInternalError "Absent" ⟨⟨[], rfl⟩, ⟨"Absent", rfl, ?_⟩, hbound _⟩ rfl
    decide
  · refine (buildRegistry_told_by_settings _).2.2.2.1 hstatus hname ?_
    refine noneWrong_snoc.mpr ⟨hbound none, ?_⟩
    rintro ⟨kind, hk, _⟩
    cases hk
  · have hvalid : (shop [soldOut] ⟨some "Absent", none⟩).validate = .ok () := rfl
    refine ⟨hvalid, ((buildRegistry_told_by_settings _).2.2.2.2.2 hvalid).1.mpr (Or.inr ?_)⟩
    refine ⟨.maintenance, "Absent", rfl, ?_⟩
    decide

end Handler

end FaultGate.Settings
