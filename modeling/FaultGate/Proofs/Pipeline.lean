import FaultGate.Proofs.Construction

/-!
# The two passes of the resolver are the whole recursion

What becomes of a fault is laid down as a recursion on itself: a fault that is
disclosed is replaced by a stand-in, and the stand-in goes through the same
decisions again. Nothing in that text bounds it. A factory is any function of
the message, so it may pass the check that a registry makes and yield a
maintenance signal or an unknown error afterwards, and then one might fear
that the stand-in is disclosed in its turn.

`round` goes through the decisions once, and `Pipeline` is the recursion,
round after round without a bound and with a record of the factories that are
called and of the times it starts over. It never starts over twice. The reason
is that a stand-in is looked at before it is used: what comes out of `standIn`
is a domain fault or an error, and on a domain fault the recursion ends. The
resolver, which makes two passes and no more, hence gives the recursion's own
result, for every registry, well-bound or not.

That at most one factory is called is a statement about the resolver as well.
The record says which factory was asked and for which message, and any other
registry that binds and registers the same kinds, and that gives the same
answer to that one question, leads to the same result.
-/

namespace FaultGate

/-- A factory that was called, and the message it was called with. -/
structure FactoryCall where
  kind : String
  message : String
  deriving DecidableEq, Repr

/-- One evaluation of the recursion. -/
structure Evaluation where
  result : Except RegistryError Outcome
  /-- The factories that were called, in order. -/
  calls : List FactoryCall
  /-- How often the recursion started over. -/
  reentries : Nat

/-- What instantiating a kind is laid down to do: its factory is called, and
what that yields is accepted if it is a domain fault. -/
def Registry.construct (reg : Registry) (kind message : String) :
    Except RegistryError Fault × List FactoryCall :=
  match reg.factory? kind with
  | none => (.error (.unresolvable kind .notRegistered), [])
  | some factory =>
    let fault := factory message
    if fault.isDomain then (.ok fault, [⟨kind, message⟩])
    else (.error (.unresolvable kind .notDomain), [⟨kind, message⟩])

namespace Resolver

/-- The fault that stands in for a role. -/
def standIn (r : Resolver) (role : Role) (message : String) :
    Except RegistryError Fault × List FactoryCall :=
  r.registry.construct (r.registry.resolveRole role) message

/-- A maintenance signal is replaced before anything else is decided. -/
def replaced (r : Resolver) : Fault → Except RegistryError Fault × List FactoryCall
  | .maintenance _ => r.standIn .maintenance maintenanceMessage
  | fault => (.ok fault, [])

/-- What one round of the decisions comes to. -/
inductive Round where
  | done (run : Evaluation)
  /-- The decisions are to be made anew, for another fault. -/
  | again (substitute : Fault) (calls : List FactoryCall)

/-- One round of the decisions, as they are laid down. -/
def round (r : Resolver) (ctx : RequestContext) (posture : Posture)
    (fault : Fault) : Round :=
  if ctx.inScope r.scope then
    match r.replaced fault with
    | (.error e, calls) => .done ⟨.error e, calls, 0⟩
    | (.ok (.domain f), calls) => .done ⟨.ok (.json (f.body ctx)), calls, 0⟩
    | (.ok other, calls) =>
      if posture.discloses ctx then
        match r.standIn .serverInternalError internalErrorMessage with
        | (.error e, more) => .done ⟨.error e, calls ++ more, 0⟩
        | (.ok substitute, more) => .again substitute (calls ++ more)
      else .done ⟨.ok (.delegate other), calls, 0⟩
  else .done ⟨.ok (.delegate fault), [], 0⟩

/-- The recursion: round after round, until one is the last. A fault for which
it would not end is related to nothing. -/
inductive Pipeline (r : Resolver) (ctx : RequestContext) (posture : Posture) :
    Fault → Evaluation → Prop where
  | done {fault : Fault} {run : Evaluation}
      (h : r.round ctx posture fault = .done run) : Pipeline r ctx posture fault run
  | again {fault substitute : Fault} {calls : List FactoryCall} {run : Evaluation}
      (h : r.round ctx posture fault = .again substitute calls)
      (hr : Pipeline r ctx posture substitute run) :
      Pipeline r ctx posture fault
        ⟨run.result, calls ++ run.calls, run.reentries + 1⟩

variable {r : Resolver} {ctx : RequestContext} {posture : Posture}

/-- A stand-in is a domain fault or an error, as the resolver has it. -/
theorem standIn_fst (r : Resolver) (role : Role) (message : String) :
    (r.standIn role message).1 = (r.substitute role message).map .domain := by
  rw [standIn, substitute, Registry.construct]
  cases hf : r.registry.factory? (r.registry.resolveRole role) with
  | none => rw [Registry.instantiate_of_factory?_eq_none hf]; rfl
  | some factory =>
      cases hm : factory message with
      | domain f =>
          rw [Registry.instantiate_of_domain hf hm]
          simp only [hm]
          rfl
      | maintenance signal =>
          rw [Registry.instantiate_of_not_domain hf (by rw [hm]; rfl)]
          simp only [hm]
          rfl
      | unknown e =>
          rw [Registry.instantiate_of_not_domain hf (by rw [hm]; rfl)]
          simp only [hm]
          rfl

/-- The one factory that a stand-in takes is that of the kind of the role, and
it is called if that kind is registered. -/
theorem standIn_snd (r : Resolver) (role : Role) (message : String) :
    (r.standIn role message).2 =
      if r.registry.contains (r.registry.resolveRole role) then
        [⟨r.registry.resolveRole role, message⟩]
      else [] := by
  rw [standIn, Registry.construct, Registry.contains]
  cases r.registry.factory? (r.registry.resolveRole role) with
  | none => rfl
  | some factory =>
      simp only [Option.isSome_some, if_true]
      split <;> rfl

theorem standIn_snd_length_le (r : Resolver) (role : Role) (message : String) :
    (r.standIn role message).2.length ≤ 1 := by
  rw [standIn_snd]
  split
  · exact Nat.le_refl 1
  · exact Nat.zero_le 1

theorem round_outside (h : ctx.inScope r.scope = false) (fault : Fault) :
    r.round ctx posture fault = .done ⟨.ok (.delegate fault), [], 0⟩ := by
  rw [round, h]
  rfl

theorem round_domain (h : ctx.inScope r.scope = true) (f : DomainFault) :
    r.round ctx posture (.domain f) = .done ⟨.ok (.json (f.body ctx)), [], 0⟩ := by
  rw [round, h]
  rfl

theorem round_maintenance (h : ctx.inScope r.scope = true)
    (signal : MaintenanceSignal) :
    r.round ctx posture (.maintenance signal) =
      .done ⟨bodyOf ctx (r.substitute .maintenance maintenanceMessage),
        (r.standIn .maintenance maintenanceMessage).2, 0⟩ := by
  have hs := r.standIn_fst .maintenance maintenanceMessage
  rw [round, if_pos h, replaced]
  cases hp : r.standIn .maintenance maintenanceMessage with
  | mk result calls =>
      rw [hp] at hs
      simp only [] at hs
      subst hs
      cases r.substitute .maintenance maintenanceMessage with
      | error e => rfl
      | ok f => rfl

theorem round_withheld (h : ctx.inScope r.scope = true)
    (hd : posture.discloses ctx = false) (e : ErrorChain) :
    r.round ctx posture (.unknown e) =
      .done ⟨.ok (.delegate (.unknown e)), [], 0⟩ := by
  rw [round, if_pos h]
  simp only [replaced, hd]
  rfl

/-- Where an unknown error is disclosed, the next round is about a domain
fault, if there is a next round. -/
theorem round_disclosed (h : ctx.inScope r.scope = true)
    (hd : posture.discloses ctx = true) (e : ErrorChain) :
    r.round ctx posture (.unknown e) =
      match r.substitute .serverInternalError internalErrorMessage with
      | .error e =>
        .done ⟨.error e, (r.standIn .serverInternalError internalErrorMessage).2, 0⟩
      | .ok f =>
        .again (.domain f) (r.standIn .serverInternalError internalErrorMessage).2 := by
  have hs := r.standIn_fst .serverInternalError internalErrorMessage
  rw [round, if_pos h]
  simp only [replaced, hd, if_true]
  cases hp : r.standIn .serverInternalError internalErrorMessage with
  | mk result calls =>
      rw [hp] at hs
      simp only [] at hs
      subst hs
      cases r.substitute .serverInternalError internalErrorMessage with
      | error e => rfl
      | ok f => rfl

theorem Pipeline.of_disclosed (h : ctx.inScope r.scope = true)
    (hd : posture.discloses ctx = true) (e : ErrorChain) :
    ∃ n, n ≤ 1 ∧ Pipeline r ctx posture (.unknown e)
      ⟨bodyOf ctx (r.substitute .serverInternalError internalErrorMessage),
        (r.standIn .serverInternalError internalErrorMessage).2, n⟩ := by
  have hround := round_disclosed h hd e
  cases hs : r.substitute .serverInternalError internalErrorMessage with
  | error e' =>
      rw [hs] at hround
      exact ⟨0, Nat.zero_le 1, .done hround⟩
  | ok f =>
      rw [hs] at hround
      have hrun := Pipeline.again hround (.done (round_domain h f))
      rw [List.append_nil] at hrun
      exact ⟨1, Nat.le_refl 1, hrun⟩

/-- The recursion has one result at most, because a round has one. -/
theorem Pipeline.unique {fault : Fault} {run other : Evaluation}
    (h : Pipeline r ctx posture fault run) (h' : Pipeline r ctx posture fault other) :
    other = run := by
  induction h generalizing other with
  | done hround =>
      cases h' with
      | done hround' =>
          rw [hround] at hround'
          injection hround' with heq
          exact heq.symm
      | again hround' _ =>
          rw [hround] at hround'
          cases hround'
  | again hround _ ih =>
      cases h' with
      | done hround' =>
          rw [hround] at hround'
          cases hround'
      | again hround' hr' =>
          rw [hround] at hround'
          injection hround' with hsubstitute hcalls
          subst hsubstitute hcalls
          rw [ih hr']

/-! ## What the result depends on -/

/-- Another resolver with the same scope, bindings and registered kinds, whose
factories give the same answers to the given calls. -/
structure AgreesOn (r r' : Resolver) (calls : List FactoryCall) : Prop where
  scope : r'.scope = r.scope
  bindings : r'.registry.bindings = r.registry.bindings
  kinds : ∀ kind, r'.registry.contains kind = r.registry.contains kind
  answers : ∀ c ∈ calls,
    (r'.registry.factory? c.kind).map (· c.message) =
      (r.registry.factory? c.kind).map (· c.message)

namespace AgreesOn

variable {r' : Resolver} {calls : List FactoryCall}

theorem resolveRole (h : AgreesOn r r' calls) (role : Role) :
    r'.registry.resolveRole role = r.registry.resolveRole role := by
  rw [Registry.resolveRole, Registry.resolveRole, Registry.resolve,
    Registry.resolve, h.bindings]

/-- A stand-in depends on the calls that are made for it. A kind that is not
registered is not called, and for that the same kinds must be registered. -/
theorem substitute {role : Role} {message : String}
    (h : AgreesOn r r' (r.standIn role message).2) :
    r'.substitute role message = r.substitute role message := by
  rw [Resolver.substitute, Resolver.substitute, h.resolveRole role]
  have hk := h.kinds (r.registry.resolveRole role)
  cases hc : r.registry.contains (r.registry.resolveRole role) with
  | true =>
      refine Registry.instantiate_congr
        (h.answers ⟨r.registry.resolveRole role, message⟩ ?_)
      rw [standIn_snd, if_pos hc]
      exact List.mem_singleton_self _
  | false =>
      rw [hc] at hk
      rw [Registry.contains, Option.isSome_eq_false_iff, Option.isNone_iff_eq_none]
        at hc hk
      rw [Registry.instantiate_of_factory?_eq_none hc,
        Registry.instantiate_of_factory?_eq_none hk]

end AgreesOn

/-- The recursion ends, with the resolver's result, after starting over once
at most and calling one factory at most, and nothing but the answers to its
calls has entered into that result. -/
theorem Pipeline.ends (r : Resolver) (ctx : RequestContext)
    (posture : Posture) (fault : Fault) :
    ∃ run, Pipeline r ctx posture fault run ∧
      run.result = r.render ctx posture fault ∧
      run.reentries ≤ 1 ∧ run.calls.length ≤ 1 ∧
      ∀ r', AgreesOn r r' run.calls →
        r'.render ctx posture fault = r.render ctx posture fault := by
  cases hs : ctx.inScope r.scope with
  | false =>
      refine ⟨_, .done (round_outside hs fault), (render_outside hs fault).symm,
        Nat.zero_le 1, Nat.zero_le 1, fun r' h => ?_⟩
      rw [render_outside hs, render_outside (h.scope.symm ▸ hs)]
  | true =>
      cases fault with
      | domain f =>
          refine ⟨_, .done (round_domain hs f), (render_domain hs f).symm,
            Nat.zero_le 1, Nat.zero_le 1, fun r' h => ?_⟩
          rw [render_domain hs, render_domain (h.scope.symm ▸ hs)]
      | maintenance signal =>
          refine ⟨_, .done (round_maintenance hs signal),
            (render_maintenance hs signal).symm, Nat.zero_le 1,
            standIn_snd_length_le r _ _, fun r' h => ?_⟩
          rw [render_maintenance hs, render_maintenance (h.scope.symm ▸ hs),
            h.substitute]
      | unknown e =>
          cases hd : posture.discloses ctx with
          | false =>
              refine ⟨_, .done (round_withheld hs hd e),
                (render_withheld hs hd e).symm, Nat.zero_le 1, Nat.zero_le 1,
                fun r' h => ?_⟩
              rw [render_withheld hs hd, render_withheld (h.scope.symm ▸ hs) hd]
          | true =>
              obtain ⟨n, hn, hrun⟩ := Pipeline.of_disclosed hs hd e
              refine ⟨_, hrun, (render_disclosed hs hd e).symm, hn,
                standIn_snd_length_le r _ _, fun r' h => ?_⟩
              rw [render_disclosed hs hd, render_disclosed (h.scope.symm ▸ hs) hd,
                h.substitute]

/-! ## What the resolver can return -/

theorem bodyOf_ne_delegate {substitute : Except RegistryError DomainFault}
    {fault : Fault} : bodyOf ctx substitute ≠ .ok (.delegate fault) := by
  cases substitute with
  | error e => rw [bodyOf_error]; exact fun h => by cases h
  | ok f => rw [bodyOf_ok]; exact fun h => by cases h

theorem bodyOf_eq_error {substitute : Except RegistryError DomainFault}
    {e : RegistryError} (h : bodyOf ctx substitute = .error e) :
    substitute = .error e := by
  cases substitute with
  | error e' => rw [bodyOf_error] at h; injection h with h; rw [h]
  | ok f => rw [bodyOf_ok] at h; cases h

/-- Nothing else than the fault that came in is ever delegated. -/
theorem render_eq_delegate {fault passed : Fault}
    (h : r.render ctx posture fault = .ok (.delegate passed)) :
    passed = fault := by
  rcases r.render_cases ctx posture fault with hc | ⟨f, hc⟩ | ⟨role, hc⟩
  · rw [hc] at h
    injection h with h
    injection h with h
    exact h.symm
  · rw [hc] at h
    injection h with h
    cases h
  · rw [hc] at h
    exact absurd h bodyOf_ne_delegate

/-- Every error of the resolver is one of instantiating the kind of a role. -/
theorem render_eq_error {fault : Fault} {e : RegistryError}
    (h : r.render ctx posture fault = .error e) :
    ∃ role, r.registry.instantiate (r.registry.resolveRole role)
      (standInMessage role) = .error e := by
  rcases r.render_cases ctx posture fault with hc | ⟨f, hc⟩ | ⟨role, hc⟩
  · rw [hc] at h; cases h
  · rw [hc] at h; cases h
  · rw [hc] at h
    exact ⟨role, bodyOf_eq_error h⟩

theorem render_ne_notRendered {fault : Fault} (kind : String) :
    r.render ctx posture fault ≠ .error (.unresolvable kind .notRendered) := by
  intro h
  obtain ⟨role, he⟩ := render_eq_error h
  rcases Registry.instantiate_error he with ⟨he, _⟩ | ⟨he, _⟩
  · cases he
  · cases he

/-- The resolver computes the recursion that is laid down for it: that
recursion ends for every registry, scope, context, posture and fault, in one
way only and after starting over once at most; its result is the resolver's;
one factory is called at most, and nothing else of any factory matters; what is delegated is
the fault that came in; and no stand-in is ever found unrendered. For a
registry that was built, by whatever calls, the only error is that of a bound
factory that yields a domain fault for the empty message and none for the
message of a stand-in. -/
theorem render_refines_pipeline (r : Resolver) (ctx : RequestContext)
    (posture : Posture) (fault : Fault) :
    (∃ run, (∀ other, Pipeline r ctx posture fault other ↔ other = run) ∧
      run.result = r.render ctx posture fault ∧
      run.reentries ≤ 1 ∧ run.calls.length ≤ 1 ∧
      ∀ r', AgreesOn r r' run.calls →
        r'.render ctx posture fault = r.render ctx posture fault) ∧
    (∀ passed, r.render ctx posture fault = .ok (.delegate passed) →
      passed = fault) ∧
    (∀ kind, r.render ctx posture fault ≠
      .error (.unresolvable kind .notRendered)) ∧
    (∀ calls events e,
      (RegistryBuilder.ofCalls calls).build = (.ok r.registry, events) →
      r.render ctx posture fault = .error e →
      ∃ role factory,
        e = .unresolvable (r.registry.resolveRole role) .notDomain ∧
        r.registry.factory? (r.registry.resolveRole role) = some factory ∧
        (factory "").isDomain = true ∧
        (factory (standInMessage role)).isDomain = false) := by
  obtain ⟨run, hrun, hlaw⟩ := Pipeline.ends r ctx posture fault
  refine ⟨⟨run, fun other => ⟨hrun.unique, ?_⟩, hlaw⟩, fun passed => render_eq_delegate,
    render_ne_notRendered, fun calls events e hbuilt he => ?_⟩
  · rintro rfl
    exact hrun
  obtain ⟨role, hi⟩ := render_eq_error he
  obtain ⟨he, factory, hf, hempty, hd⟩ :=
    RegistryBuilder.built_instantiate_error
      (RegistryBuilder.ofCalls_keepsDefaults calls) hbuilt hi
  exact ⟨role, factory, he, hf, hempty, hd⟩

end Resolver

end FaultGate
