import FaultGate.Proofs.Rendering

/-!
# Unknown errors stay unknown to the client

An unknown error may hold anything: a path, a password, a query. That its text
does not reach the client is not a fact about one answer but about two: had
the error been another one, the client would have received the same. The
statements here compare two runs in that way.

Two rules decide what is shown, and they are not the same rule. The resolver
discloses in debug posture or in test mode, but what it discloses is a stand-in
that is made without the error. The plain presentation shows the error itself,
but only in debug posture, and it is only asked where the resolver delegates.
Inside the scope the resolver delegates an unknown error exactly when it does
not disclose, so never in debug posture; outside it the presentation's own rule
is all there is. What is left over is one combination, debug posture outside
the scope, and there two errors can indeed be told apart.

The last theorem carries this from the handling of one fault to the layer
around a service. The context is then whatever the request makes of it, so no
header, query or body can ask for more.
-/

namespace FaultGate

open FaultGate.Http (Request Response Service)

theorem Posture.debug_of_not_discloses {posture : Posture} {ctx : RequestContext}
    (h : posture.discloses ctx = false) : posture.debug = false := by
  rw [discloses, Bool.or_eq_false_iff] at h
  exact h.1

/-- Without debug posture the presentation of an unknown error is one fixed
text. -/
theorem Presentation.unknownText_of_not_debug {posture : Posture}
    (h : posture.debug = false) (e : ErrorChain) :
    unknownText posture e = "Internal Server Error" := by
  rw [unknownText, h]
  rfl

/-- Two responses of a service that a client is not to tell apart: the same
one, or two that carry unknown errors, whatever else is in them. -/
def Http.Response.Masked (a b : Response) : Prop :=
  a = b ∨ ∃ e₁ e₂, a.parked = some (.unknown e₁) ∧ b.parked = some (.unknown e₂)

namespace FaultHandler

/-- The handler with the plain presentation and with a reporter of its own. -/
def plainWith (resolver : Resolver) (posture : Posture) (reporter : Reporter) :
    FaultHandler :=
  { plain resolver posture with reporter }

section Plain

variable {resolver : Resolver} {posture : Posture} {reporter : Reporter}
  {ctx : RequestContext}

/-- Where the resolver delegates, the plain presentation answers. -/
theorem answer_unknown_of_delegate {e : ErrorChain}
    (h : resolver.render ctx posture (.unknown e) =
      .ok (.delegate (.unknown e))) :
    (plainWith resolver posture reporter).answer ctx (.unknown e) =
      .ok (.text .internalServerError (Presentation.unknownText posture e)) := by
  rw [answer, plainWith, plain]
  simp only [h]
  rfl

/-- Outside the scope and without debug posture an unknown error is answered
with the fixed text, and so it is inside the scope where nothing is disclosed. -/
theorem answer_unknown_of_not_debug {e : ErrorChain}
    (hd : posture.debug = false)
    (h : ctx.inScope resolver.scope = false ∨ posture.discloses ctx = false) :
    (plainWith resolver posture reporter).answer ctx (.unknown e) =
      .ok (.text .internalServerError "Internal Server Error") := by
  rw [← Presentation.unknownText_of_not_debug hd e]
  apply answer_unknown_of_delegate
  cases hs : ctx.inScope resolver.scope with
  | false => exact Resolver.render_outside hs _
  | true =>
      rcases h with h | h
      · rw [hs] at h; cases h
      · exact Resolver.render_withheld hs h e

/-- Inside the scope, or without debug posture, any two unknown errors are
answered alike, and fail to be answered alike. -/
theorem answer_unknown_congr
    (h : posture.debug = true → ctx.inScope resolver.scope = true)
    (e₁ e₂ : ErrorChain) :
    (plainWith resolver posture reporter).answer ctx (.unknown e₁) =
      (plainWith resolver posture reporter).answer ctx (.unknown e₂) := by
  cases hs : ctx.inScope resolver.scope with
  | false =>
      have hd : posture.debug = false := by
        cases hd : posture.debug with
        | false => rfl
        | true => rw [h hd] at hs; cases hs
      rw [answer_unknown_of_not_debug hd (Or.inl hs),
        answer_unknown_of_not_debug hd (Or.inl hs)]
  | true =>
      cases hd : posture.discloses ctx with
      | false =>
          have hdebug := Posture.debug_of_not_discloses hd
          rw [answer_unknown_of_not_debug hdebug (Or.inr hd),
            answer_unknown_of_not_debug hdebug (Or.inr hd)]
      | true =>
          simp only [answer, plainWith, plain, Resolver.render_disclosed hs hd]

/-- Debug posture shows the error outside the scope, so there an error without
text and one with a text are told apart. -/
theorem answer_unknown_ne (hd : posture.debug = true)
    (hs : ctx.inScope resolver.scope = false) :
    (plainWith resolver posture reporter).answer ctx (.unknown ⟨"", []⟩) ≠
      (plainWith resolver posture reporter).answer ctx (.unknown ⟨"x", []⟩) := by
  rw [answer_unknown_of_delegate (Resolver.render_outside hs _),
    answer_unknown_of_delegate (Resolver.render_outside hs _)]
  simp only [Presentation.unknownText, hd, if_true]
  intro heq
  injection heq with heq
  exact absurd (congrArg Response.body heq) (by decide)

/-- The layer sends the same response to a request whichever of two services
stands inside, if their responses are to be told apart by unknown errors
only. -/
theorem layer_response_masked {σ : Type} {inner₁ inner₂ : Service σ}
    {freshId : String} {request : Request} {state : σ}
    (h : posture.debug = true → beginsWith request.uri.path resolver.scope = true)
    (hm : (inner₁ request state).response.Masked (inner₂ request state).response) :
    ((plainWith resolver posture reporter).layer inner₁ freshId request state).response =
      ((plainWith resolver posture reporter).layer inner₂ freshId request state).response := by
  rcases Inspection.read_cases freshId request with ⟨event, hr⟩ | ⟨ctx, hr, hpath⟩
  · rw [layer_rejected hr, layer_rejected hr]
  · rw [layer_accepted hr, layer_accepted hr]
    rcases hm with hm | ⟨e₁, e₂, h₁, h₂⟩
    · cases hp : (inner₁ request state).response.parked with
      | none =>
          rw [settle_of_none ctx hp, settle_of_none ctx (hm ▸ hp), hm]
      | some fault =>
          rw [settle_response ctx hp, settle_response ctx (hm ▸ hp)]
    · rw [settle_response ctx h₁, settle_response ctx h₂, presented, presented]
      rw [answer_unknown_congr (by rw [RequestContext.inScope, hpath]; exact h)]

end Plain

/-- What a client receives for an unknown error does not depend on the error,
with one exception: debug posture outside the scope. This is so for the
handling of a single fault, where the exception is exact, and around any
service for every request, whichever way it may ask for test mode. -/
theorem unknown_errors_masked (resolver : Resolver) (posture : Posture)
    (reporter : Reporter) :
    (∀ ctx : RequestContext,
      (∀ e₁ e₂ : ErrorChain,
        ((plainWith resolver posture reporter).handle ctx (.unknown e₁)).1 =
          ((plainWith resolver posture reporter).handle ctx (.unknown e₂)).1) ↔
      ¬(posture.debug = true ∧ ctx.inScope resolver.scope = false)) ∧
    (∀ (σ : Type) (inner₁ inner₂ : Service σ) (freshId : String)
        (request : Request) (state : σ),
      ¬(posture.debug = true ∧
        beginsWith request.uri.path resolver.scope = false) →
      (inner₁ request state).response.Masked (inner₂ request state).response →
      ((plainWith resolver posture reporter).layer inner₁ freshId request state).response =
        ((plainWith resolver posture reporter).layer inner₂ freshId request state).response) := by
  refine ⟨fun ctx => ⟨fun hall => ?_, fun hex e₁ e₂ => ?_⟩,
    fun σ inner₁ inner₂ freshId request state hex hm => ?_⟩
  · rintro ⟨hd, hs⟩
    exact answer_unknown_ne hd hs (hall _ _)
  · refine answer_unknown_congr (fun hd => ?_) e₁ e₂
    rw [← Bool.not_eq_false]
    exact fun hs => hex ⟨hd, hs⟩
  · refine layer_response_masked (fun hd => ?_) hm
    rw [← Bool.not_eq_false]
    exact fun hs => hex ⟨hd, hs⟩

end FaultHandler

end FaultGate
