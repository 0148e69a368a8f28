import FaultGate.Proofs.Pipeline

/-!
# Three answers, and no fourth

A layer that has a fault to present can do three things with it. It leaves it to
the host's presentation; it sends the body of a domain fault, which is the fault
itself or one that stands in for it; or, where a stand-in is called for and there
is none, it sends a status and nothing else. Which of them it is follows from the
scope, the posture, the kind of fault and one look into the registry, in this
order, and the order matters: asked too early, the presentation would be handed a
stand-in, and asked too late, it would be handed a fault that the resolver failed
on.

The third answer is the one to be careful with, because something has gone wrong
twice by then. It is one fixed response. The error that led to it goes into the
log, after the report, and nowhere else: it is no fault, and it is not resolved.
That the resolver is not asked again is said as in the recursion of the two
passes, by the calls. At most one factory is called, and a resolver that gives
the same answer to that call makes the layer reply the same.
-/

namespace FaultGate

open FaultGate.Http (Request Reply Service)

namespace Resolver

variable {r r' : Resolver} {ctx : RequestContext} {posture : Posture} {fault : Fault}

/-- Is the fault left to the host's presentation? -/
def LeftToHost (r : Resolver) (ctx : RequestContext) (posture : Posture)
    (fault : Fault) : Prop :=
  ctx.inScope r.scope = false ∨
    (∃ e, fault = .unknown e) ∧ posture.debug = false ∧ ctx.testMode = false

/-- The domain fault whose body is sent: the fault itself, or the one that stands
in for it. -/
def speaker (r : Resolver) : Fault → Except RegistryError DomainFault
  | .domain f => .ok f
  | .maintenance _ => r.substitute .maintenance maintenanceMessage
  | .unknown _ => r.substitute .serverInternalError internalErrorMessage

/-- The factories that are called to find it. -/
def asked (r : Resolver) : Fault → List FactoryCall
  | .domain _ => []
  | .maintenance _ => (r.standIn .maintenance maintenanceMessage).2
  | .unknown _ => (r.standIn .serverInternalError internalErrorMessage).2

theorem asked_length_le (r : Resolver) (fault : Fault) : (r.asked fault).length ≤ 1 := by
  cases fault with
  | domain f => exact Nat.zero_le 1
  | maintenance signal => exact standIn_snd_length_le r _ _
  | unknown e => exact standIn_snd_length_le r _ _

theorem speaker_congr (h : AgreesOn r r' (r.asked fault)) :
    r'.speaker fault = r.speaker fault := by
  cases fault with
  | domain f => rfl
  | maintenance signal => exact h.substitute
  | unknown e => exact h.substitute

theorem leftToHost_congr (h : r'.scope = r.scope) :
    LeftToHost r' ctx posture fault ↔ LeftToHost r ctx posture fault := by
  rw [LeftToHost, LeftToHost, h]

theorem render_of_leftToHost (h : LeftToHost r ctx posture fault) :
    r.render ctx posture fault = .ok (.delegate fault) := by
  cases hs : ctx.inScope r.scope with
  | false => exact render_outside hs fault
  | true =>
      rcases h with h | ⟨⟨e, rfl⟩, hdebug, htest⟩
      · rw [hs] at h
        cases h
      · refine render_withheld hs ?_ e
        rw [Posture.discloses, hdebug, htest]
        rfl

theorem render_of_not_leftToHost (h : ¬ LeftToHost r ctx posture fault) :
    r.render ctx posture fault = bodyOf ctx (r.speaker fault) := by
  cases hs : ctx.inScope r.scope with
  | false => exact absurd (Or.inl hs) h
  | true =>
      cases fault with
      | domain f => exact render_domain hs f
      | maintenance signal => exact render_maintenance hs signal
      | unknown e =>
          cases hd : posture.discloses ctx with
          | true => exact render_disclosed hs hd e
          | false =>
              rw [Posture.discloses, Bool.or_eq_false_iff] at hd
              exact absurd (Or.inr ⟨⟨e, rfl⟩, hd⟩) h

end Resolver

namespace FaultHandler

variable {σ : Type} {h : FaultHandler} {ctx : RequestContext} {fault : Fault}
  {reply : Reply σ}

theorem settle_of_leftToHost (hp : reply.response.parked = some fault)
    (hl : h.resolver.LeftToHost ctx h.posture fault) :
    h.settle ctx reply =
      ⟨h.presentation ctx h.posture fault,
        reply.events ++ [h.reporter.report ctx fault], reply.state⟩ :=
  settle_of_ok hp (answer_of_delegate (Resolver.render_of_leftToHost hl))

theorem settle_of_speaker {f : DomainFault} (hp : reply.response.parked = some fault)
    (hl : ¬ h.resolver.LeftToHost ctx h.posture fault)
    (hf : h.resolver.speaker fault = .ok f) :
    h.settle ctx reply =
      ⟨.ofErrorBody (f.body ctx),
        reply.events ++ [h.reporter.report ctx fault], reply.state⟩ := by
  refine settle_of_ok hp (answer_of_json ?_)
  rw [Resolver.render_of_not_leftToHost hl, hf]
  rfl

theorem settle_of_no_speaker {e : RegistryError}
    (hp : reply.response.parked = some fault)
    (hl : ¬ h.resolver.LeftToHost ctx h.posture fault)
    (he : h.resolver.speaker fault = .error e) :
    h.settle ctx reply =
      ⟨.bare .internalServerError,
        reply.events ++ [h.reporter.report ctx fault, misconfiguredEvent ctx e],
        reply.state⟩ := by
  refine settle_of_error hp (answer_of_error ?_)
  rw [Resolver.render_of_not_leftToHost hl, he]
  rfl

/-- Where the fault is not left to it, the presentation has no say. -/
theorem settle_presentation (hp : reply.response.parked = some fault)
    (hl : ¬ h.resolver.LeftToHost ctx h.posture fault) (other : Presentation) :
    { h with presentation := other }.settle ctx reply = h.settle ctx reply := by
  cases hf : h.resolver.speaker fault with
  | ok f =>
      rw [settle_of_speaker hp hl hf]
      exact settle_of_speaker (h := { h with presentation := other }) hp hl hf
  | error e =>
      rw [settle_of_no_speaker hp hl hf]
      exact settle_of_no_speaker (h := { h with presentation := other }) hp hl hf

/-- Nothing else is read in the registry than the answer to the one call. -/
theorem settle_resolver {other : Resolver} (hp : reply.response.parked = some fault)
    (ho : h.resolver.AgreesOn other (h.resolver.asked fault)) :
    { h with resolver := other }.settle ctx reply = h.settle ctx reply := by
  have hspeaker := Resolver.speaker_congr ho
  have hleft : other.LeftToHost ctx h.posture fault ↔
      h.resolver.LeftToHost ctx h.posture fault := Resolver.leftToHost_congr ho.scope
  by_cases hl : h.resolver.LeftToHost ctx h.posture fault
  · rw [settle_of_leftToHost hp hl]
    exact settle_of_leftToHost (h := { h with resolver := other }) hp (hleft.mpr hl)
  · have hl' := fun hh => hl (hleft.mp hh)
    cases hf : h.resolver.speaker fault with
    | ok f =>
        rw [settle_of_speaker hp hl hf]
        exact settle_of_speaker (h := { h with resolver := other }) hp hl'
          (hspeaker.trans hf)
    | error e =>
        rw [settle_of_no_speaker hp hl hf]
        exact settle_of_no_speaker (h := { h with resolver := other }) hp hl'
          (hspeaker.trans hf)

/-- A fault that a service returns gets exactly one of three answers, whatever
the registry, the reporter and the presentation are: the presentation's own, the
body of a domain fault, or, where no domain fault can be had, a bare status. It
is reported once, and in the third case alone one more event tells why. -/
theorem fault_gets_one_answer (h : FaultHandler) (inner : Service σ) {freshId : String}
    {request : Request} {state : σ}
    (hread : Inspection.read freshId request = .accepted ctx request)
    (hp : (inner request state).response.parked = some fault) :
    let before := inner request state
    let after := h.layer inner freshId request state
    (h.resolver.LeftToHost ctx h.posture fault →
      after = ⟨h.presentation ctx h.posture fault,
        before.events ++ [h.reporter.report ctx fault], before.state⟩) ∧
    (¬ h.resolver.LeftToHost ctx h.posture fault →
      ∀ f, h.resolver.speaker fault = .ok f →
        after = ⟨.ofErrorBody (f.body ctx),
          before.events ++ [h.reporter.report ctx fault], before.state⟩) ∧
    (¬ h.resolver.LeftToHost ctx h.posture fault →
      ∀ e, h.resolver.speaker fault = .error e →
        after =
          { response :=
              { status := .internalServerError, headers := [], body := [], parked := none }
            events := before.events ++ [h.reporter.report ctx fault,
              { level := .error
                origin := .handler
                message := "exception handler misconfigured"
                fields := [("error", .text e.message), ("path", .text ctx.path),
                  ("request_id", .text ctx.requestId)] }]
            state := before.state }) ∧
    -- The presentation is asked in the first case only.
    (¬ h.resolver.LeftToHost ctx h.posture fault → ∀ other,
      { h with presentation := other }.layer inner freshId request state = after) ∧
    -- The registry is asked once.
    (h.resolver.asked fault).length ≤ 1 ∧
    ∀ other, h.resolver.AgreesOn other (h.resolver.asked fault) →
      { h with resolver := other }.layer inner freshId request state = after := by
  intro before after
  have hafter : after = h.settle ctx before := layer_accepted hread inner state
  refine ⟨fun hl => ?_, fun hl f hf => ?_, fun hl e he => ?_, fun hl other => ?_,
    h.resolver.asked_length_le fault, fun other ho => ?_⟩
  · rw [hafter]
    exact settle_of_leftToHost hp hl
  · rw [hafter]
    exact settle_of_speaker hp hl hf
  · rw [hafter]
    exact settle_of_no_speaker hp hl he
  · rw [hafter, layer_accepted hread]
    exact settle_presentation hp hl other
  · rw [hafter, layer_accepted hread]
    exact settle_resolver hp ho

/-- A kind that passes the check of the empty message and answers for nothing. -/
def hollow : Factory := fun message =>
  if message = "" then (ApiFault.maintainMode "").toFault else .unknown ⟨message, []⟩

def hollowResolver : Resolver where
  registry := ⟨[("Hollow", hollow)], ⟨some "Hollow", none⟩⟩
  scope := "/api"

def closing : Service Unit := fun _ _ => .quiet (.park (.maintenance ⟨some 30⟩)) ()

def asking : Request where
  method := "GET"
  uri := ⟨"/api/orders", none⟩
  headers := [("x-request-id", Text.utf8 "r-1")]
  body := []

/-- Its stand-in fails when it is needed, and all that is sent is the status. -/
theorem fault_gets_one_answer_hollow :
    (FaultHandler.plain hollowResolver ⟨true⟩).layer closing "fresh" asking () =
      ⟨.bare .internalServerError,
        [Reporter.noteEvent ⟨"/api/orders", false, "r-1"⟩ (.maintenance ⟨some 30⟩),
          misconfiguredEvent ⟨"/api/orders", false, "r-1"⟩
            (.unresolvable "Hollow" .notDomain)], ()⟩ := by
  have hread : Inspection.read "fresh" asking =
      .accepted ⟨"/api/orders", false, "r-1"⟩ asking := by rfl
  have hparked : (closing asking ()).response.parked = some (.maintenance ⟨some 30⟩) := rfl
  obtain ⟨_, _, hclosed, _⟩ :=
    fault_gets_one_answer (.plain hollowResolver ⟨true⟩) closing hread hparked
  refine hclosed ?_ _ rfl
  rintro (hs | ⟨⟨e, he⟩, _⟩)
  · cases hs
  · cases he

end FaultHandler

end FaultGate
