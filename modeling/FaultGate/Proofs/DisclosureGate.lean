import FaultGate.Proofs.Answers
import Mathlib.Logic.Basic
import Mathlib.Tactic.ByContra

/-!
# Posture and test mode count at one gate only

The resolver is handed a posture and a context in which test mode is asked for or not,
and it hands both on to whatever it calls. What it makes of them should be one decision:
whether an unknown error inside the scope is disclosed. The law is about two runs. A
resolver is given the same fault twice, for requests with one path and one id, and all
else about the two may differ. Then it does the same, unless the gate parts them.

Two things can be told apart when the resolver is done, whether the fault was left to
the host and what body was sent. The first depends on the path and on the gate. The
second depends on the domain fault that speaks, which is found without a look at the
request, and on what that fault reads in the context. A declared fault reads the id
there. A fault of the application's own could read anything, so this is asked of the
one fault that speaks, and of no other.
-/

namespace FaultGate

/-- The body depends on the id of the request and on nothing else of the context. -/
def DomainFault.ReadsIdOnly (f : DomainFault) : Prop :=
  ∀ ctx ctx' : RequestContext, ctx.requestId = ctx'.requestId → f.body ctx = f.body ctx'

theorem ApiFault.toDomain_readsIdOnly (f : ApiFault) : f.toDomain.ReadsIdOnly := by
  intro ctx ctx' hid
  show f.body ctx = f.body ctx'
  rw [body, body, hid]

namespace Resolver

variable {r : Resolver} {ctx ctx' : RequestContext} {posture posture' : Posture}
  {fault : Fault}

/-- An unknown error inside the scope is disclosed in one of two runs and not in the
other. -/
structure PartedAtGate (r : Resolver) (fault : Fault) (ctx : RequestContext)
    (posture : Posture) (ctx' : RequestContext) (posture' : Posture) : Prop where
  unknown : ∃ e, fault = .unknown e
  inside : ctx.inScope r.scope = true
  parted : ¬ (posture.debug = true ∨ ctx.testMode = true ↔
    posture'.debug = true ∨ ctx'.testMode = true)

/-! ## What is left to the host -/

/-- A delegated fault was left to the host, for a body is never delegated. -/
theorem render_eq_delegate_iff :
    r.render ctx posture fault = .ok (.delegate fault) ↔ LeftToHost r ctx posture fault := by
  constructor
  · intro h
    by_contra hl
    rw [render_of_not_leftToHost hl] at h
    exact bodyOf_ne_delegate h
  · exact render_of_leftToHost

/-- Inside the scope an unknown error is left to the host unless it is disclosed. -/
theorem leftToHost_unknown_iff (hs : ctx.inScope r.scope = true) (e : ErrorChain) :
    LeftToHost r ctx posture (.unknown e) ↔
      ¬ (posture.debug = true ∨ ctx.testMode = true) := by
  rw [LeftToHost, hs, not_or, Bool.not_eq_true, Bool.not_eq_true]
  constructor
  · intro h
    rcases h with h | ⟨_, hdebug, htest⟩
    · cases h
    · exact ⟨hdebug, htest⟩
  · intro h
    exact Or.inr ⟨⟨e, rfl⟩, h⟩

/-- Any other fault is left to the host for its path alone. -/
theorem leftToHost_of_not_unknown (hf : ∀ e, fault ≠ .unknown e) :
    LeftToHost r ctx posture fault ↔ ctx.inScope r.scope = false := by
  constructor
  · intro h
    rcases h with h | ⟨⟨e, he⟩, _⟩
    · exact h
    · exact absurd he (hf e)
  · exact Or.inl

theorem leftToHost_iff_of_not_parted (hpath : ctx.path = ctx'.path)
    (hg : ¬ PartedAtGate r fault ctx posture ctx' posture') :
    LeftToHost r ctx posture fault ↔ LeftToHost r ctx' posture' fault := by
  have hscope : ctx'.inScope r.scope = ctx.inScope r.scope := by
    rw [RequestContext.inScope, RequestContext.inScope, hpath]
  cases hs : ctx.inScope r.scope with
  | false => exact iff_of_true (Or.inl hs) (Or.inl (hscope.trans hs))
  | true =>
      cases fault with
      | domain f =>
          rw [leftToHost_of_not_unknown (by simp), leftToHost_of_not_unknown (by simp), hscope]
      | maintenance signal =>
          rw [leftToHost_of_not_unknown (by simp), leftToHost_of_not_unknown (by simp), hscope]
      | unknown e =>
          rw [leftToHost_unknown_iff hs, leftToHost_unknown_iff (hscope.trans hs)]
          refine not_congr ?_
          by_contra hparted
          exact hg ⟨⟨e, rfl⟩, hs, hparted⟩

/-! ## What is sent -/

theorem bodyOf_congr {substitute : Except RegistryError DomainFault}
    (hr : ∀ f, substitute = .ok f → f.ReadsIdOnly) (hid : ctx.requestId = ctx'.requestId) :
    bodyOf ctx substitute = bodyOf ctx' substitute := by
  cases substitute with
  | error e => rfl
  | ok f => rw [bodyOf_ok, bodyOf_ok, hr f rfl ctx ctx' hid]

theorem render_congr (hl : LeftToHost r ctx posture fault ↔ LeftToHost r ctx' posture' fault)
    (hb : bodyOf ctx (r.speaker fault) = bodyOf ctx' (r.speaker fault)) :
    r.render ctx posture fault = r.render ctx' posture' fault := by
  by_cases h : LeftToHost r ctx posture fault
  · rw [render_of_leftToHost h, render_of_leftToHost (hl.mp h)]
  · rw [render_of_not_leftToHost h, render_of_not_leftToHost (mt hl.mpr h), hb]

theorem render_eq_iff_not_parted (hr : ∀ f, r.speaker fault = .ok f → f.ReadsIdOnly)
    (hpath : ctx.path = ctx'.path) (hid : ctx.requestId = ctx'.requestId) :
    r.render ctx posture fault = r.render ctx' posture' fault ↔
      ¬ PartedAtGate r fault ctx posture ctx' posture' := by
  constructor
  · intro heq hg
    obtain ⟨⟨e, rfl⟩, hs, hparted⟩ := hg
    have hs' : ctx'.inScope r.scope = true := by
      rw [RequestContext.inScope, ← hpath]
      exact hs
    -- the two runs agree on what they delegate, and inside the scope that is the gate
    have hl : LeftToHost r ctx posture (.unknown e) ↔ LeftToHost r ctx' posture' (.unknown e) := by
      rw [← render_eq_delegate_iff, ← render_eq_delegate_iff, heq]
    rw [leftToHost_unknown_iff hs, leftToHost_unknown_iff hs'] at hl
    exact hparted (not_iff_not.mp hl)
  · intro hg
    exact render_congr (leftToHost_iff_of_not_parted hpath hg) (bodyOf_congr hr hid)

/-- Two runs for one fault, one path and one id end alike, in an outcome or in an error,
exactly if the gate does not part them. No more is asked than that the fault that speaks
reads the id only, as every declared fault does. In particular a domain fault and a
maintenance signal have the same answer in every posture, whatever is read for it, and in
debug posture it does not matter whether test mode is asked for. -/
theorem render_parted_at_gate_only (r : Resolver) (fault : Fault) :
    (∀ ctx ctx' posture posture', (∀ f, r.speaker fault = .ok f → f.ReadsIdOnly) →
      ctx.path = ctx'.path → ctx.requestId = ctx'.requestId →
      (r.render ctx posture fault = r.render ctx' posture' fault ↔
        ¬ PartedAtGate r fault ctx posture ctx' posture')) ∧
    (∀ f : ApiFault, f.toDomain.ReadsIdOnly) ∧
    ((∀ e, fault ≠ .unknown e) → ∀ ctx posture posture',
      r.render ctx posture fault = r.render ctx posture' fault) ∧
    ((∀ f, r.speaker fault = .ok f → f.ReadsIdOnly) → ∀ (ctx : RequestContext) asked,
      r.render { ctx with testMode := asked } ⟨true⟩ fault = r.render ctx ⟨true⟩ fault) := by
  refine ⟨?_, ApiFault.toDomain_readsIdOnly, ?_, ?_⟩
  · intro ctx ctx' posture posture' hr hpath hid
    exact render_eq_iff_not_parted hr hpath hid
  · intro hf ctx posture posture'
    refine render_congr ?_ rfl
    rw [leftToHost_of_not_unknown hf, leftToHost_of_not_unknown hf]
  · intro hr ctx asked
    refine (render_eq_iff_not_parted hr ?_ ?_).mpr fun hg => ?_
    · rfl
    · rfl
    · exact hg.parted (iff_of_true (Or.inl rfl) (Or.inl rfl))

def standard : Resolver := ⟨.defaults, defaultScope⟩

def diskFull : Fault := .unknown ⟨"disk full", ["no space left on device"]⟩

def ordering (testMode : Bool) : RequestContext := ⟨"/api/orders", testMode, "r-1"⟩

/-- The built-in stand-ins tell an unknown error in test mode as in debug posture, and
where neither is on the answer is another one. Under maintenance the posture is nothing. -/
theorem render_parted_at_gate_only_standard :
    standard.render (ordering true) ⟨false⟩ diskFull =
      standard.render (ordering false) ⟨true⟩ diskFull ∧
    standard.render (ordering true) ⟨false⟩ diskFull ≠
      standard.render (ordering false) ⟨false⟩ diskFull ∧
    standard.render (ordering true) ⟨true⟩ diskFull =
      standard.render (ordering false) ⟨true⟩ diskFull ∧
    standard.render (ordering false) ⟨false⟩ (.maintenance ⟨some 30⟩) =
      standard.render (ordering false) ⟨true⟩ (.maintenance ⟨some 30⟩) := by
  obtain ⟨htwo, hdeclared, _, hdebug⟩ := render_parted_at_gate_only standard diskFull
  have hspeaker : standard.speaker diskFull =
      .ok (ApiFault.serverInternalError internalErrorMessage).toDomain := rfl
  have hreads : ∀ f, standard.speaker diskFull = .ok f → f.ReadsIdOnly := by
    intro f hf
    rw [hspeaker] at hf
    injection hf with hf
    rw [← hf]
    exact hdeclared _
  refine ⟨?_, ?_, ?_, ?_⟩
  · refine (htwo (ordering true) (ordering false) _ _ hreads rfl rfl).mpr fun hg => ?_
    exact hg.parted (iff_of_true (Or.inr rfl) (Or.inl rfl))
  · intro heq
    refine (htwo (ordering true) (ordering false) _ _ hreads rfl rfl).mp heq ⟨⟨_, rfl⟩, rfl, ?_⟩
    decide
  · exact hdebug hreads (ordering false) true
  · refine (render_parted_at_gate_only standard (.maintenance ⟨some 30⟩)).2.2.1 ?_ _ _ _
    intro e he
    cases he

end Resolver

end FaultGate
