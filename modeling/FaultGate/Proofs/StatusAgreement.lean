import FaultGate.Proofs.ErrorBodyText
import FaultGate.Proofs.Rendering

/-!
# One status for both renderings of a domain fault

A domain fault that is answered with JSON writes its status twice, into the line of the
response and into the body, and the plain presentation writes it into the line of another
response. Both lines take it from the body that the fault supplies, and a fault of the
application's own may have put any machine word there. A word that is no status cannot
be sent, so 500 is sent in its place; the body is not corrected, because it is the fault's
own.

The two renderings read the body for two contexts which differ in the path, for the path is
what decides between them. So they can only agree on a fault whose body does not depend on
it. Nothing has to be asked of a declared fault.
-/

namespace FaultGate

open FaultGate.Http (Response)

/-- The body is the same whatever the path of the request is. -/
def DomainFault.IgnoresPath (f : DomainFault) : Prop :=
  ∀ (ctx : RequestContext) (path : String), f.body { ctx with path := path } = f.body ctx

/-- The code that a word is sent as: itself, if it has three digits. -/
def sentCode (word : UInt16) : Nat :=
  if 100 ≤ word.toNat ∧ word.toNat ≤ 999 then word.toNat else 500

theorem ErrorBody.httpStatus_code (body : ErrorBody) :
    body.httpStatus.code = sentCode body.status := by
  rw [httpStatus, Status.ofNat?, sentCode]
  by_cases h : 100 ≤ body.status.toNat ∧ body.status.toNat ≤ 999
  · rw [dif_pos h, if_pos h]
    rfl
  · rw [dif_neg h, if_neg h]
    rfl

theorem Http.Response.ofErrorBody_tells_status_iff {body : ErrorBody} {told : Json.Value} :
    (ofErrorBody body).Tells "status" told ↔
      told = .number (.integer body.status.toNat) := by
  rw [ofErrorBody_tells_iff, body.member?_fields.2.1, Option.some.injEq, eq_comm]

theorem Http.Response.ofErrorBody_tells_message_iff {body : ErrorBody} {told : Json.Value} :
    (ofErrorBody body).Tells "message" told ↔ told = .string body.message := by
  rw [ofErrorBody_tells_iff, body.member?_fields.2.2.1, Option.some.injEq, eq_comm]

namespace FaultHandler

variable {h : FaultHandler} {ctx : RequestContext}

/-- On either side of the scope the status is that of the body. -/
theorem exists_answer_domain (hp : h.presentation = .plain) (ctx : RequestContext)
    (f : DomainFault) :
    ∃ response, h.answer ctx (.domain f) = .ok response ∧
      response.status = (f.body ctx).httpStatus ∧
      (ctx.inScope h.resolver.scope = true → response = .ofErrorBody (f.body ctx)) := by
  cases hs : ctx.inScope h.resolver.scope with
  | true => exact ⟨_, answer_domain_inside hs f, rfl, fun _ => rfl⟩
  | false => exact ⟨_, answer_domain_outside hp hs f, rfl, fun h => nomatch h⟩

/-- A domain fault whose body does not depend on the path is answered with one status,
inside the scope and outside it and in every posture. It is the one that the fault wrote
into its body if that has three digits and 500 otherwise, and the JSON text says what the
fault wrote. For a declared fault all three are what was declared, and the text of the
plain presentation is the message in the JSON text. -/
theorem renderings_agree_on_status :
    (∀ f : DomainFault, f.IgnoresPath → ∀ h h' : FaultHandler,
      h.presentation = .plain → h'.presentation = .plain →
      ∀ (ctx : RequestContext) (path path' : String), ∃ response response' : Response,
        (h.handle { ctx with path := path } (.domain f)).1 = .ok response ∧
        (h'.handle { ctx with path := path' } (.domain f)).1 = .ok response' ∧
        response.status = response'.status ∧
        response.status.code = sentCode (f.body ctx).status ∧
        (RequestContext.inScope { ctx with path := path } h.resolver.scope = true →
          ∀ told, response.Tells "status" told ↔
            told = .number (.integer (f.body ctx).status.toNat))) ∧
    ∀ (f : ApiFault) (h h' : FaultHandler), h'.presentation = .plain →
      ∀ ctx ctx' : RequestContext, ctx.inScope h.resolver.scope = true →
        ctx'.inScope h'.resolver.scope = false → ∃ response response' : Response,
          (h.handle ctx f.toFault).1 = .ok response ∧
          (h'.handle ctx' f.toFault).1 = .ok response' ∧
          response.status = f.status ∧ response'.status = f.status ∧
          (∀ told, response.Tells "status" told ↔ told = .number (.integer f.status.code)) ∧
          (∀ told, response.Tells "message" told ↔ told = .string f.message) ∧
          response'.body = Text.utf8 f.message := by
  constructor
  · intro f hf h h' hp hp' ctx path path'
    obtain ⟨response, ha, hstatus, hjson⟩ := exists_answer_domain hp { ctx with path := path } f
    obtain ⟨response', ha', hstatus', _⟩ := exists_answer_domain hp' { ctx with path := path' } f
    rw [hf] at hstatus hstatus' hjson
    refine ⟨response, response', ha, ha', hstatus.trans hstatus'.symm, ?_, fun hs told => ?_⟩
    · rw [hstatus, ErrorBody.httpStatus_code]
    · rw [hjson hs, Response.ofErrorBody_tells_status_iff]
  · intro f h h' hp' ctx ctx' hs hs'
    refine ⟨_, _, answer_domain_inside hs f.toDomain, answer_domain_outside hp' hs' f.toDomain,
      f.httpStatus_body ctx, f.httpStatus_body ctx', fun told => ?_, fun told => ?_, rfl⟩
    · rw [Response.ofErrorBody_tells_status_iff]
      show told = .number (.integer f.status.toUInt16.toNat) ↔ _
      rw [Status.toNat_toUInt16]
    · rw [Response.ofErrorBody_tells_message_iff]
      rfl

/-- A fault that writes a status of four digits into its body. -/
def overstated : DomainFault where
  kind := "Overstated"
  message := "too much"
  display := "Overstated: too much"
  body := fun ctx => ⟨⟨"SYS_API_OVERSTATED"⟩, 1000, "too much", ctx.requestId, []⟩

theorem renderings_agree_on_status_overstated :
    ∃ response response' : Response,
      ((FaultHandler.plain ⟨.defaults, "/api"⟩ ⟨true⟩).handle ⟨"/api/orders", true, "r-1"⟩
        (.domain overstated)).1 = .ok response ∧
      ((FaultHandler.plain ⟨.defaults, "/api"⟩ ⟨false⟩).handle ⟨"/orders", true, "r-1"⟩
        (.domain overstated)).1 = .ok response' ∧
      response'.status = response.status ∧ response.status.code = 500 ∧
      response.Tells "status" (.number (.integer 1000)) := by
  obtain ⟨response, response', ha, ha', hsame, hcode, htells⟩ :=
    renderings_agree_on_status.1 overstated (fun _ _ => rfl)
      (.plain ⟨.defaults, "/api"⟩ ⟨true⟩) (.plain ⟨.defaults, "/api"⟩ ⟨false⟩) rfl rfl
      ⟨"/", true, "r-1"⟩ "/api/orders" "/orders"
  exact ⟨response, response', ha, ha', hsame.symm, hcode, (htells (by decide) _).mpr rfl⟩

end FaultHandler

end FaultGate
