import FaultGate.Handler

/-!
# What becomes of a fault, case by case

The resolver decides by nested matches, and every law about it would have to
walk them again. This file walks them once. There are five cases: outside the
scope nothing is looked at; inside it a domain fault and a maintenance signal
are answered whatever the posture, and an unknown error is withheld or
replaced as the posture says. Each case is one equation, and no later proof
opens `render` or `evaluate`.

The second half does the same for the layer around a service: what the
inspection of a request lets through is the request itself, and what is sent
depends on the fault the reply carries and on nothing else of the service.
-/

namespace FaultGate

namespace Registry

/-- A kind that is not registered cannot stand in for anything. -/
theorem instantiate_of_factory?_eq_none {reg : Registry} {kind : String}
    (h : reg.factory? kind = none) (message : String) :
    reg.instantiate kind message = .error (.unresolvable kind .notRegistered) := by
  rw [instantiate, h]

/-- A registered kind stands in where its factory yields a domain fault for
the message at hand, whatever it yields for others. -/
theorem instantiate_of_domain {reg : Registry} {kind message : String}
    {factory : Factory} {fault : DomainFault}
    (h : reg.factory? kind = some factory)
    (hf : factory message = .domain fault) :
    reg.instantiate kind message = .ok fault := by
  rw [instantiate, h]
  simp only [hf]

theorem instantiate_of_not_domain {reg : Registry} {kind message : String}
    {factory : Factory} (h : reg.factory? kind = some factory)
    (hf : (factory message).isDomain = false) :
    reg.instantiate kind message = .error (.unresolvable kind .notDomain) := by
  rw [instantiate, h]
  cases hm : factory message with
  | domain fault => rw [hm] at hf; cases hf
  | maintenance signal => simp only [hm]
  | unknown e => simp only [hm]

/-- Instantiation reads the registry at one kind, and that kind's factory at
one message. -/
theorem instantiate_congr {reg reg' : Registry} {kind message : String}
    (h : (reg'.factory? kind).map (· message) =
      (reg.factory? kind).map (· message)) :
    reg'.instantiate kind message = reg.instantiate kind message := by
  rw [instantiate, instantiate]
  cases hk' : reg'.factory? kind with
  | none =>
      cases hk : reg.factory? kind with
      | none => rfl
      | some factory => rw [hk', hk] at h; cases h
  | some factory' =>
      cases hk : reg.factory? kind with
      | none => rw [hk', hk] at h; cases h
      | some factory =>
          rw [hk', hk] at h
          injection h with h
          simp only [h]

/-- The only complaints are of the kind that was asked for: that it is not
registered, or that it yields no domain fault. -/
theorem instantiate_error {reg : Registry} {kind message : String}
    {e : RegistryError} (h : reg.instantiate kind message = .error e) :
    e = .unresolvable kind .notRegistered ∧ reg.factory? kind = none ∨
      e = .unresolvable kind .notDomain ∧
        ∃ factory, reg.factory? kind = some factory ∧
          (factory message).isDomain = false := by
  cases hk : reg.factory? kind with
  | none =>
      rw [instantiate_of_factory?_eq_none hk] at h
      injection h with h
      exact Or.inl ⟨h.symm, rfl⟩
  | some factory =>
      cases hd : (factory message).isDomain with
      | false =>
          rw [instantiate_of_not_domain hk hd] at h
          injection h with h
          exact Or.inr ⟨h.symm, factory, rfl, hd⟩
      | true =>
          cases hm : factory message with
          | domain fault => rw [instantiate_of_domain hk hm] at h; cases h
          | maintenance signal => rw [hm] at hd; cases hd
          | unknown e => rw [hm] at hd; cases hd

end Registry

namespace Resolver

variable {r : Resolver} {ctx : RequestContext} {posture : Posture}

/-- The message of the fault that stands in for a role. -/
def standInMessage : Role → String
  | .maintenance => maintenanceMessage
  | .serverInternalError => internalErrorMessage

/-- The answer that a stand-in gives. -/
def bodyOf (ctx : RequestContext) (substitute : Except RegistryError DomainFault) :
    Except RegistryError Outcome :=
  substitute.map fun f => .json (f.body ctx)

@[simp] theorem bodyOf_ok (f : DomainFault) :
    bodyOf ctx (.ok f) = .ok (.json (f.body ctx)) := rfl

@[simp] theorem bodyOf_error (e : RegistryError) :
    bodyOf ctx (.error e) = .error e := rfl

theorem render_outside (h : ctx.inScope r.scope = false) (fault : Fault) :
    r.render ctx posture fault = .ok (.delegate fault) := by
  rw [render, h]
  rfl

theorem render_domain (h : ctx.inScope r.scope = true) (f : DomainFault) :
    r.render ctx posture (.domain f) = .ok (.json (f.body ctx)) := by
  rw [render, h]
  rfl

theorem render_maintenance (h : ctx.inScope r.scope = true)
    (signal : MaintenanceSignal) :
    r.render ctx posture (.maintenance signal) =
      bodyOf ctx (r.substitute .maintenance maintenanceMessage) := by
  rw [render, h, evaluate]
  cases r.substitute .maintenance maintenanceMessage with
  | error e => rfl
  | ok f => rfl

theorem render_withheld (h : ctx.inScope r.scope = true)
    (hd : posture.discloses ctx = false) (e : ErrorChain) :
    r.render ctx posture (.unknown e) = .ok (.delegate (.unknown e)) := by
  rw [render, h, hd]
  rfl

/-- The error itself does not occur on the right. -/
theorem render_disclosed (h : ctx.inScope r.scope = true)
    (hd : posture.discloses ctx = true) (e : ErrorChain) :
    r.render ctx posture (.unknown e) =
      bodyOf ctx (r.substitute .serverInternalError internalErrorMessage) := by
  rw [render, h, hd, evaluate]
  cases r.substitute .serverInternalError internalErrorMessage with
  | error e => rfl
  | ok f => rfl

/-- All that can become of a fault: it is delegated as it is, it answers for
itself, or a stand-in answers for it. -/
theorem render_cases (r : Resolver) (ctx : RequestContext) (posture : Posture)
    (fault : Fault) :
    r.render ctx posture fault = .ok (.delegate fault) ∨
      (∃ f : DomainFault, r.render ctx posture fault = .ok (.json (f.body ctx))) ∨
      ∃ role, r.render ctx posture fault =
        bodyOf ctx (r.substitute role (standInMessage role)) := by
  cases hs : ctx.inScope r.scope with
  | false => exact Or.inl (render_outside hs fault)
  | true =>
      cases fault with
      | domain f => exact Or.inr (Or.inl ⟨f, render_domain hs f⟩)
      | maintenance signal =>
          exact Or.inr (Or.inr ⟨.maintenance, render_maintenance hs signal⟩)
      | unknown e =>
          cases hd : posture.discloses ctx with
          | false => exact Or.inl (render_withheld hs hd e)
          | true =>
              exact Or.inr (Or.inr ⟨.serverInternalError, render_disclosed hs hd e⟩)

end Resolver

theorem ApiFault.httpStatus_body (f : ApiFault) (ctx : RequestContext) :
    (f.body ctx).httpStatus = f.status := by
  rw [ErrorBody.httpStatus, ApiFault.body]
  simp only [Status.toNat_toUInt16, Status.ofNat?_code, Option.getD_some]

/-! ## The layer around a service -/

namespace Inspection

/-- What is read in is the whole body or nothing. -/
theorem readBody?_eq_some {limit : Nat} {body bytes : Http.Bytes}
    (h : readBody? limit body = some bytes) : bytes = body := by
  rw [readBody?] at h
  split at h
  · injection h with h
    exact h.symm
  · cases h

/-- A request that is let through is let through as it was, and its context
has its path. -/
theorem read_accepted {freshId : String} {request passed : Http.Request}
    {ctx : RequestContext}
    (h : read freshId request = .accepted ctx passed) :
    passed = request ∧ ctx.path = request.uri.path := by
  rw [read] at h
  split at h
  · injection h with hc hp
    subst hc hp
    exact ⟨rfl, rfl⟩
  · split at h
    · cases h
    · rename_i bytes hb
      have hbytes := readBody?_eq_some hb
      subst hbytes
      injection h with hc hp
      subst hc hp
      exact ⟨rfl, rfl⟩

/-- A request is rejected, or it is let through as it was. -/
theorem read_cases (freshId : String) (request : Http.Request) :
    (∃ event, read freshId request = .rejected event) ∨
      ∃ ctx, read freshId request = .accepted ctx request ∧
        ctx.path = request.uri.path := by
  cases hr : read freshId request with
  | rejected event => exact Or.inl ⟨event, rfl⟩
  | accepted ctx passed =>
      obtain ⟨rfl, hpath⟩ := read_accepted hr
      exact Or.inr ⟨ctx, rfl, hpath⟩

/-- A body no longer than the limit is never a reason to reject. -/
theorem read_of_length_le {request : Http.Request} (freshId : String)
    (h : request.body.length ≤ maxBody) :
    ∃ ctx, read freshId request = .accepted ctx request := by
  rw [read]
  split
  · exact ⟨_, rfl⟩
  · rw [readBody?, if_pos h]
    exact ⟨_, rfl⟩

end Inspection

namespace FaultHandler

open FaultGate.Http (Reply Request Response Service)

variable {σ : Type} {h : FaultHandler}

theorem layer_rejected {request : Request} {freshId : String} {event : Log.Event}
    (hr : Inspection.read freshId request = .rejected event) (inner : Service σ)
    (state : σ) :
    h.layer inner freshId request state =
      ⟨Inspection.rejection, [event], state⟩ := by
  rw [layer, hr]

theorem layer_accepted {request : Request} {freshId : String}
    {ctx : RequestContext}
    (hr : Inspection.read freshId request = .accepted ctx request)
    (inner : Service σ) (state : σ) :
    h.layer inner freshId request state = h.settle ctx (inner request state) := by
  rw [layer, hr]

/-- The response that a fault is answered with, whether it can be resolved or
not. -/
def presented (h : FaultHandler) (ctx : RequestContext) (fault : Fault) : Response :=
  match h.answer ctx fault with
  | .ok response => response
  | .error _ => .bare .internalServerError

theorem settle_of_none {reply : Reply σ} (ctx : RequestContext)
    (hp : reply.response.parked = none) : h.settle ctx reply = reply := by
  rw [settle, hp]

theorem settle_response {reply : Reply σ} {fault : Fault} (ctx : RequestContext)
    (hp : reply.response.parked = some fault) :
    (h.settle ctx reply).response = h.presented ctx fault := by
  rw [settle, hp, presented]
  simp only [handle]
  cases h.answer ctx fault with
  | ok response => rfl
  | error e => rfl

theorem answer_of_json {ctx : RequestContext} {fault : Fault} {body : ErrorBody}
    (hr : h.resolver.render ctx h.posture fault = .ok (.json body)) :
    h.answer ctx fault = .ok (.ofErrorBody body) := by
  rw [answer, hr]

theorem answer_of_delegate {ctx : RequestContext} {fault passed : Fault}
    (hr : h.resolver.render ctx h.posture fault = .ok (.delegate passed)) :
    h.answer ctx fault = .ok (h.presentation ctx h.posture passed) := by
  rw [answer, hr]

theorem answer_of_error {ctx : RequestContext} {fault : Fault} {e : RegistryError}
    (hr : h.resolver.render ctx h.posture fault = .error e) :
    h.answer ctx fault = .error e := by
  rw [answer, hr]

theorem answer_domain_inside {ctx : RequestContext} (hs : ctx.inScope h.resolver.scope = true)
    (f : DomainFault) : h.answer ctx (.domain f) = .ok (.ofErrorBody (f.body ctx)) :=
  answer_of_json (Resolver.render_domain hs f)

theorem answer_domain_outside {ctx : RequestContext} (hp : h.presentation = .plain)
    (hs : ctx.inScope h.resolver.scope = false) (f : DomainFault) :
    h.answer ctx (.domain f) = .ok (.text (f.body ctx).httpStatus f.message) := by
  rw [answer_of_delegate (Resolver.render_outside hs (.domain f)), hp]
  rfl

theorem settle_of_ok {reply : Reply σ} {ctx : RequestContext} {fault : Fault}
    {response : Response} (hp : reply.response.parked = some fault)
    (ha : h.answer ctx fault = .ok response) :
    h.settle ctx reply =
      ⟨response, reply.events ++ [h.reporter.report ctx fault], reply.state⟩ := by
  rw [settle, hp]
  simp only [handle, ha]

theorem settle_of_error {reply : Reply σ} {ctx : RequestContext} {fault : Fault}
    {e : RegistryError} (hp : reply.response.parked = some fault)
    (ha : h.answer ctx fault = .error e) :
    h.settle ctx reply =
      ⟨.bare .internalServerError,
        reply.events ++ [h.reporter.report ctx fault, misconfiguredEvent ctx e],
        reply.state⟩ := by
  rw [settle, hp]
  simp only [handle, ha, List.append_assoc, List.cons_append, List.nil_append]

/-- Settling a fault is no business of the service's state. -/
theorem settle_state (ctx : RequestContext) (reply : Reply σ) :
    (h.settle ctx reply).state = reply.state := by
  rw [settle]
  split
  · rfl
  · simp only [handle]
    split <;> rfl

end FaultHandler

end FaultGate
