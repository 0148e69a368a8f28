import FaultGate.Proofs.Declarations

/-!
# Why nothing is left to fail once a registry is built

The check at the end of building is a thin one. It looks at the roles that are
bound and passes over the others, and what it asks of a bound kind is one fault,
for the empty message. Everything that is rendered later is rendered for other
messages, and as often as not for a role that nobody bound.

What closes the gap is a property of the factories that the check itself never
sees. A factory is steady if the message has no say in whether it yields a
domain fault; the empty message is then as good as any other. Steadiness is an
invariant of the builder: it starts with two steady factories, a call adds one
or none, and none is ever put in another's place. With the other invariant, that
the default kinds keep their built-in factories, it reaches the roles that were
not checked as well.

Declared faults are steady whatever their code and status, so settings have
nothing further to promise. They make calls on a builder like anybody else, and
`calls` says which.
-/

namespace FaultGate

/-- The message does not decide whether the factory yields a domain fault. -/
def Factory.Steady (factory : Factory) : Prop :=
  ∀ message other, (factory message).isDomain = (factory other).isDomain

theorem Factory.declared_steady (kind : String) (code : ErrorCode) (status : Status) :
    (Factory.declared kind code status).Steady :=
  fun _ _ => rfl

/-- The factory that a call registers. -/
def RegistryCall.factory? : RegistryCall → Option Factory
  | .register _ factory => some factory
  | .declare kind code status => some (.declared kind code status)
  | .bind _ _ => none

def RegistryCall.Steady (c : RegistryCall) : Prop :=
  ∀ factory, c.factory? = some factory → factory.Steady

theorem RegistryCall.steady_of_ne_register {c : RegistryCall}
    (h : ∀ kind factory, c ≠ .register kind factory) : c.Steady := by
  intro factory hf
  cases c with
  | register kind own => exact absurd rfl (h kind own)
  | declare kind code status =>
      injection hf with hf
      subst hf
      exact Factory.declared_steady kind code status
  | bind role kind => cases hf

namespace RegistryBuilder

def Steady (b : RegistryBuilder) : Prop :=
  ∀ kind factory, b.factories.lookup kind = some factory → factory.Steady

theorem steady_empty : empty.Steady := by
  intro kind factory h
  rw [show empty.factories = builtins from rfl, Settings.Handler.builtins_lookup] at h
  obtain ⟨d, _, rfl⟩ := Option.map_eq_some_iff.mp h
  exact Factory.declared_steady kind d.code d.status

theorem Steady.register {b : RegistryBuilder} (hb : b.Steady) {factory : Factory}
    (hf : factory.Steady) (kind : String) : (b.register kind factory).Steady := by
  intro other found h
  rw [register_lookup, Option.or_eq_some_iff] at h
  rcases h with h | ⟨_, h⟩
  · exact hb other found h
  · split at h
    · injection h with h
      rw [← h]
      exact hf
    · cases h

theorem Steady.call {b : RegistryBuilder} (hb : b.Steady) {c : RegistryCall}
    (hc : c.Steady) : (b.call c).Steady := by
  cases c with
  | register kind factory => exact hb.register (hc factory rfl) kind
  | declare kind code status =>
      exact hb.register (Factory.declared_steady kind code status) kind
  | bind role kind => exact hb

theorem Steady.foldl_call (calls : List RegistryCall) :
    ∀ {b : RegistryBuilder}, b.Steady → (∀ c ∈ calls, c.Steady) →
      (calls.foldl RegistryBuilder.call b).Steady := by
  induction calls with
  | nil => exact fun hb _ => hb
  | cons c rest ih =>
      intro b hb hc
      exact ih (hb.call (hc c (List.mem_cons_self ..)))
        fun other ho => hc other (List.mem_cons_of_mem _ ho)

theorem ofCalls_steady {calls : List RegistryCall} (h : ∀ c ∈ calls, c.Steady) :
    (ofCalls calls).Steady :=
  Steady.foldl_call calls steady_empty h

/-! ## What the check asks for -/

/-- A registry is built when no name was taken twice and every bound kind yields
a domain fault for the empty message. No other message is tried, and a role that
is not bound is not looked at. -/
theorem exists_build_iff (b : RegistryBuilder) :
    (∃ reg events, b.build = (.ok reg, events)) ↔
      b.duplicates = [] ∧
        ∀ role kind, b.bindings.get? role = some kind →
          ∃ factory, b.factories.lookup kind = some factory ∧
            (factory "").isDomain = true := by
  constructor
  · rintro ⟨reg, events, h⟩
    obtain ⟨_, hdup, hcheck⟩ := build_eq_ok h
    exact ⟨hdup, fun role kind hk => checkBinding_eq_ok (hcheck role kind hk)⟩
  · rintro ⟨hdup, hbound⟩
    have hcheck : ∀ role ∈ Role.all, ∀ kind, b.bindings.get? role = some kind →
        b.checkBinding kind = .ok () := by
      intro role _ kind hk
      obtain ⟨factory, hf, hd⟩ := hbound role kind hk
      exact checkBinding_of_domain hf hd
    have hroles := checkRoles_append [] hcheck
    rw [List.append_nil, checkRoles] at hroles
    exact ⟨_, _, build_of_checkRoles hdup hroles⟩

/-- The kind of every role, bound or not, yields a domain fault for every
message. -/
theorem built_instantiate {b : RegistryBuilder} {reg : Registry}
    {events : List Log.Event} (hb : b.KeepsDefaults) (hs : b.Steady)
    (h : b.build = (.ok reg, events)) (role : Role) (message : String) :
    ∃ fault, reg.instantiate (reg.resolveRole role) message = .ok fault := by
  obtain ⟨factory, hf, hempty⟩ := built_factory?_resolveRole hb h role
  obtain ⟨rfl, _, _⟩ := build_eq_ok h
  have hd : (factory message).isDomain = true := by
    rw [hs _ factory hf message ""]
    exact hempty
  cases hm : factory message with
  | domain fault => exact ⟨fault, Registry.instantiate_of_domain hf hm⟩
  | maintenance signal => rw [hm] at hd; cases hd
  | unknown e => rw [hm] at hd; cases hd

end RegistryBuilder

/-! ## What it is enough for -/

/-- Every fault can be answered, whatever the scope: the resolver fails for none,
and a layer around a service has nothing to log but the report. -/
structure Registry.AnswersAll (reg : Registry) : Prop where
  renders : ∀ (scope : String) (ctx : RequestContext) (posture : Posture) (fault : Fault),
    ∃ outcome, (⟨reg, scope⟩ : Resolver).render ctx posture fault = .ok outcome
  settles : ∀ (h : FaultHandler), h.resolver.registry = reg →
    ∀ (σ : Type) (inner : Http.Service σ) (freshId : String) (request : Http.Request)
      (state : σ) (ctx : RequestContext) (fault : Fault),
      Inspection.read freshId request = .accepted ctx request →
      (inner request state).response.parked = some fault →
      ∃ response, h.answer ctx fault = .ok response ∧
        h.layer inner freshId request state =
          ⟨response, (inner request state).events ++ [h.reporter.report ctx fault],
            (inner request state).state⟩

theorem Resolver.render_of_substitute {r : Resolver}
    (h : ∀ role, ∃ f, r.substitute role (standInMessage role) = .ok f)
    (ctx : RequestContext) (posture : Posture) (fault : Fault) :
    ∃ outcome, r.render ctx posture fault = .ok outcome := by
  rcases r.render_cases ctx posture fault with hc | ⟨f, hc⟩ | ⟨role, hc⟩
  · exact ⟨_, hc⟩
  · exact ⟨_, hc⟩
  · obtain ⟨f, hf⟩ := h role
    rw [hf] at hc
    exact ⟨_, hc⟩

/-- A handler whose resolver does not fail answers every fault. -/
theorem FaultHandler.exists_answer {h : FaultHandler}
    (hr : ∀ scope ctx posture fault,
      ∃ outcome, (⟨h.resolver.registry, scope⟩ : Resolver).render ctx posture fault =
        .ok outcome)
    (ctx : RequestContext) (fault : Fault) :
    ∃ response, h.answer ctx fault = .ok response := by
  obtain ⟨outcome, ho⟩ := hr h.resolver.scope ctx h.posture fault
  cases outcome with
  | delegate passed => exact ⟨_, answer_of_delegate ho⟩
  | json body => exact ⟨_, answer_of_json ho⟩

theorem Registry.answersAll_of_instantiate {reg : Registry}
    (h : ∀ role message, ∃ f, reg.instantiate (reg.resolveRole role) message = .ok f) :
    reg.AnswersAll := by
  have hrenders : ∀ (scope : String) (ctx : RequestContext) (posture : Posture)
      (fault : Fault),
      ∃ outcome, (⟨reg, scope⟩ : Resolver).render ctx posture fault = .ok outcome :=
    fun scope ctx posture fault =>
      Resolver.render_of_substitute (r := ⟨reg, scope⟩)
        (fun role => h role (Resolver.standInMessage role)) ctx posture fault
  refine ⟨hrenders, ?_⟩
  intro handler hreg σ inner freshId request state ctx fault hread hp
  subst hreg
  obtain ⟨response, ha⟩ := FaultHandler.exists_answer hrenders ctx fault
  refine ⟨response, ha, ?_⟩
  rw [FaultHandler.layer_accepted hread, FaultHandler.settle_of_ok hp ha]

namespace Settings

/-- The call that a declaration makes. -/
def FaultDefinition.call? (d : FaultDefinition) : Option RegistryCall :=
  (Status.ofNat? d.status.toNat).map fun status => .declare d.name ⟨d.code⟩ status

namespace Handler

/-- The calls that settings make on a fresh builder. -/
def calls (h : Handler) : List RegistryCall :=
  h.faults.filterMap FaultDefinition.call? ++
    Role.all.filterMap fun role => (h.bindings.get? role).map (.bind role)

/-- Each declaration makes its call, where all are made. -/
theorem exists_call_of_declareAll {d : FaultDefinition} {faults : List FaultDefinition}
    {b b' : RegistryBuilder} (h : declareAll b (d :: faults) = .ok b') :
    ∃ status, d.call? = some (.declare d.name ⟨d.code⟩ status) ∧
      declareAll (b.call (.declare d.name ⟨d.code⟩ status)) faults = .ok b' := by
  obtain ⟨status, hstatus, hrest⟩ := declareAll_cons h
  refine ⟨status, ?_, hrest⟩
  rw [FaultDefinition.call?, hstatus]
  rfl

theorem declareAll_eq_foldl {faults : List FaultDefinition} :
    ∀ {b b' : RegistryBuilder}, declareAll b faults = .ok b' →
      b' = (faults.filterMap FaultDefinition.call?).foldl RegistryBuilder.call b := by
  induction faults with
  | nil =>
      intro b b' h
      injection h with h
      exact h.symm
  | cons d faults ih =>
      intro b b' h
      obtain ⟨status, hcall, hrest⟩ := exists_call_of_declareAll h
      rw [List.filterMap_cons_some hcall]
      exact ih hrest

theorem bindAll_eq_foldl (h : Handler) (b : RegistryBuilder) :
    h.bindAll b = (Role.all.filterMap fun role =>
      (h.bindings.get? role).map (RegistryCall.bind role)).foldl RegistryBuilder.call b := by
  rw [bindAll, List.foldl_filterMap]
  congr 1
  funext b role
  cases h.bindings.get? role with
  | none => rfl
  | some kind => rfl

theorem build_of_buildRegistry {h : Handler} {reg : Registry} {events : List Log.Event}
    (hr : h.buildRegistry = (.ok reg, events)) :
    (RegistryBuilder.ofCalls h.calls).build = (.ok reg, events) := by
  rw [buildRegistry] at hr
  split at hr
  · cases hr
  · rename_i b hb
    split at hr
    · rename_i built _ hbuild
      injection hr with hr hevents
      injection hr with hr
      subst hr hevents
      rw [RegistryBuilder.ofCalls, calls, List.foldl_append, ← declareAll_eq_foldl hb,
        ← bindAll_eq_foldl, hbuild]
    · cases hr

theorem not_register_mem_calls (h : Handler) (kind : String) (factory : Factory) :
    .register kind factory ∉ h.calls := by
  intro hm
  rw [calls, List.mem_append, List.mem_filterMap, List.mem_filterMap] at hm
  rcases hm with ⟨d, _, hd⟩ | ⟨role, _, hr⟩
  · obtain ⟨_, _, hd⟩ := Option.map_eq_some_iff.mp hd
    cases hd
  · obtain ⟨_, _, hr⟩ := Option.map_eq_some_iff.mp hr
    cases hr

end Handler

end Settings

theorem RegistryBuilder.answersAll_of_steady {calls : List RegistryCall}
    {reg : Registry} {events : List Log.Event} (hs : ∀ c ∈ calls, c.Steady)
    (h : (ofCalls calls).build = (.ok reg, events)) : reg.AnswersAll :=
  Registry.answersAll_of_instantiate
    (built_instantiate (ofCalls_keepsDefaults calls) (ofCalls_steady hs) h)

theorem RegistryBuilder.answersAll_of_declared {calls : List RegistryCall}
    {reg : Registry} {events : List Log.Event}
    (hd : ∀ kind factory, .register kind factory ∉ calls)
    (h : (ofCalls calls).build = (.ok reg, events)) : reg.AnswersAll := by
  refine answersAll_of_steady (fun c hc => ?_) h
  refine RegistryCall.steady_of_ne_register fun kind factory heq => ?_
  exact hd kind factory (heq ▸ hc)

namespace Settings.Handler

theorem answersAll_of_buildRegistry {h : Handler} {reg : Registry}
    {events : List Log.Event} (hr : h.buildRegistry = (.ok reg, events)) : reg.AnswersAll :=
  RegistryBuilder.answersAll_of_declared h.not_register_mem_calls (build_of_buildRegistry hr)

theorem declareAll_names {faults : List FaultDefinition} :
    ∀ {b b' : RegistryBuilder}, declareAll b faults = .ok b' →
      (faults.filterMap FaultDefinition.call?).filterMap RegistryCall.name? =
        faults.map (·.name) := by
  induction faults with
  | nil => exact fun _ => rfl
  | cons d faults ih =>
      intro b b' h
      obtain ⟨status, hcall, hrest⟩ := exists_call_of_declareAll h
      rw [List.filterMap_cons_some hcall, List.map_cons, ← ih hrest]
      rfl

/-- No two faults that settings declare have one name, where a registry could be
built. -/
theorem names_nodup {h : Handler} {reg : Registry} {events : List Log.Event}
    (hr : h.buildRegistry = (.ok reg, events)) : (h.faults.map (·.name)).Nodup := by
  obtain ⟨_, hdup, _⟩ := RegistryBuilder.build_eq_ok (build_of_buildRegistry hr)
  obtain ⟨_, hnodup, _⟩ := RegistryBuilder.foldl_call_duplicates_eq_nil h.calls hdup
  rw [buildRegistry] at hr
  split at hr
  · cases hr
  · rename_i b hb
    rw [calls, List.filterMap_append, declareAll_names hb] at hnodup
    exact (List.nodup_append.mp hnodup).1

end Settings.Handler

/-- A registry that was built of steady factories answers every fault from then
on, though no more was asked of it than the last part says. So does every
registry that was built of declared faults and bindings alone, and every one
that settings describe. -/
theorem built_registry_answers_all :
    (∀ calls reg events, (∀ c ∈ calls, RegistryCall.Steady c) →
      (RegistryBuilder.ofCalls calls).build = (.ok reg, events) → reg.AnswersAll) ∧
    (∀ calls reg events, (∀ kind factory, RegistryCall.register kind factory ∉ calls) →
      (RegistryBuilder.ofCalls calls).build = (.ok reg, events) → reg.AnswersAll) ∧
    (∀ (h : Settings.Handler) reg events, h.buildRegistry = (.ok reg, events) →
      reg.AnswersAll) ∧
    (∀ calls, (∃ reg events, (RegistryBuilder.ofCalls calls).build = (.ok reg, events)) ↔
      (RegistryBuilder.ofCalls calls).duplicates = [] ∧
        ∀ role kind, (RegistryBuilder.ofCalls calls).bindings.get? role = some kind →
          ∃ factory, (RegistryBuilder.ofCalls calls).factories.lookup kind = some factory ∧
            (factory "").isDomain = true) := by
  refine ⟨?_, ?_, ?_, ?_⟩
  · intro calls reg events hs h
    exact RegistryBuilder.answersAll_of_steady hs h
  · intro calls reg events hd h
    exact RegistryBuilder.answersAll_of_declared hd h
  · intro h reg events hr
    exact Settings.Handler.answersAll_of_buildRegistry hr
  · intro calls
    exact RegistryBuilder.exists_build_iff _

/-- A kind with a factory of its own. -/
def curfew : Factory := fun message =>
  .domain
    { kind := "Curfew"
      message := message
      display := "curfew"
      body := (ApiFault.maintainMode message).body }

/-- One role is bound before its kind is registered, and one is not bound. -/
def curfewCalls : List RegistryCall :=
  [.bind .maintenance "Curfew", .register "Curfew" curfew]

theorem built_registry_answers_all_curfew :
    ∃ reg events, (RegistryBuilder.ofCalls curfewCalls).build = (.ok reg, events) ∧
      ∀ signal, ∃ outcome, (⟨reg, "/api"⟩ : Resolver).render ⟨"/api/late", false, "id"⟩
        ⟨false⟩ (.maintenance signal) = .ok outcome := by
  have hsteady : ∀ c ∈ curfewCalls, RegistryCall.Steady c := by
    intro c hc factory hf
    rcases List.mem_cons.mp hc with rfl | hc
    · cases hf
    · rw [List.mem_singleton.mp hc] at hf
      injection hf with hf
      subst hf
      exact fun _ _ => rfl
  obtain ⟨reg, events, h⟩ : ∃ reg events,
      (RegistryBuilder.ofCalls curfewCalls).build = (.ok reg, events) := ⟨_, _, rfl⟩
  refine ⟨reg, events, h, fun signal => ?_⟩
  exact (built_registry_answers_all.1 curfewCalls reg events hsteady h).renders _ _ _ _

end FaultGate
