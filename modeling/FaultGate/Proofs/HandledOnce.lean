import FaultGate.Proofs.Answers
import FaultGate.Proofs.BodyInspection

/-!
# A fault is handled once, however many layers there are

A layer takes the fault out of the reply and leaves none behind. So another layer around
it finds nothing to do, and this should be so on every way out: a reply passed on, a
JSON body, the host's presentation, the bare status where nothing could be resolved, and
the rejection of a request that the service never sees. Only the presentation is not the
layer's own. It could park a fault again, and that it does not is asked of the inner
layer's; the outer layer's is never called.

The other half is about the request. The outer layer may read the body and put it back,
and the inner one then decides anew, so it has to come to the same decision. A rejected
request is rejected by the outer layer already, with the one event that the inner layer
would have logged.

Reporting comes before anything else is done with the fault. What resolving it logs,
which is nothing unless it fails, stands behind the report.
-/

namespace FaultGate

open FaultGate.Http (Reply Request Response Service)

/-- What is presented is not a fault again. -/
def Presentation.ParksNothing (p : Presentation) : Prop :=
  ∀ ctx posture fault, (p ctx posture fault).parked = none

theorem Presentation.plain_parksNothing : plain.ParksNothing := by
  intro ctx posture fault
  cases fault with
  | domain f => rfl
  | maintenance signal =>
      rw [plain]
      cases signal.retryAfter with
      | none => rfl
      | some seconds => rfl
  | unknown e => rfl

/-- The reports among events. -/
def Log.reports (events : List Log.Event) : List Log.Event :=
  events.filter fun event => event.origin = .reporter

theorem Log.reports_append (before after : List Log.Event) :
    reports (before ++ after) = reports before ++ reports after :=
  List.filter_append before after

theorem Reporter.report_cases (r : Reporter) (ctx : RequestContext) (fault : Fault) :
    r.report ctx fault = noteEvent ctx fault ∨
      ∃ e, r.report ctx fault = errorEvent ctx e := by
  cases fault with
  | domain f => exact Or.inl rfl
  | maintenance signal => exact Or.inl rfl
  | unknown e =>
      rw [report]
      split
      · exact Or.inr ⟨e, rfl⟩
      · exact Or.inl rfl

theorem Reporter.report_origin (r : Reporter) (ctx : RequestContext) (fault : Fault) :
    (r.report ctx fault).origin = .reporter := by
  rcases r.report_cases ctx fault with h | ⟨e, h⟩
  · rw [h]
    rfl
  · rw [h]
    rfl

/-- The decision to reject is made of the request alone. -/
theorem Inspection.read_rejected {freshId : String} {request : Request} {event : Log.Event}
    (hr : read freshId request = .rejected event) (otherId : String) :
    read otherId request = .rejected event := by
  by_cases hlong : Overlong request
  · rw [read_of_overlong freshId hlong] at hr
    rw [read_of_overlong otherId hlong, hr]
  · obtain ⟨ctx, hctx⟩ := read_of_not_overlong freshId hlong
    rw [hctx] at hr
    cases hr

namespace FaultHandler

variable {σ : Type} {h : FaultHandler} {ctx : RequestContext} {fault : Fault}

/-! ## What is left behind -/

theorem presented_parked (hp : h.presentation.ParksNothing) (ctx : RequestContext)
    (fault : Fault) : (h.presented ctx fault).parked = none := by
  rw [presented]
  cases hr : h.resolver.render ctx h.posture fault with
  | error e =>
      rw [answer_of_error hr]
      rfl
  | ok outcome =>
      cases outcome with
      | json body =>
          rw [answer_of_json hr]
          rfl
      | delegate passed =>
          rw [answer_of_delegate hr]
          exact hp ctx h.posture passed

theorem settle_parked (hp : h.presentation.ParksNothing) (ctx : RequestContext)
    (reply : Reply σ) : (h.settle ctx reply).response.parked = none := by
  cases hparked : reply.response.parked with
  | none =>
      rw [settle_of_none ctx hparked]
      exact hparked
  | some fault =>
      rw [settle_response ctx hparked]
      exact presented_parked hp ctx fault

theorem layer_parked (hp : h.presentation.ParksNothing) (inner : Service σ) (freshId : String)
    (request : Request) (state : σ) :
    (h.layer inner freshId request state).response.parked = none := by
  rcases Inspection.read_cases freshId request with ⟨event, hr⟩ | ⟨ctx, hr, _⟩
  · rw [layer_rejected hr]
    rfl
  · rw [layer_accepted hr]
    exact settle_parked hp ctx _

/-! ## What is logged -/

/-- What is logged of resolving a fault. -/
def resolving (h : FaultHandler) (ctx : RequestContext) (fault : Fault) : List Log.Event :=
  match h.answer ctx fault with
  | .ok _ => []
  | .error e => [misconfiguredEvent ctx e]

theorem settle_events_of_parked {reply : Reply σ}
    (hparked : reply.response.parked = some fault) :
    (h.settle ctx reply).events =
      reply.events ++ h.reporter.report ctx fault :: h.resolving ctx fault := by
  rw [resolving]
  cases ha : h.answer ctx fault with
  | ok response => rw [settle_of_ok hparked ha]
  | error e => rw [settle_of_error hparked ha]

theorem reports_resolving (h : FaultHandler) (ctx : RequestContext) (fault : Fault) :
    Log.reports (h.resolving ctx fault) = [] := by
  rw [resolving]
  cases h.answer ctx fault with
  | ok response => rfl
  | error e => rfl

theorem reports_settle {reply : Reply σ} (hparked : reply.response.parked = some fault) :
    Log.reports (h.settle ctx reply).events =
      Log.reports reply.events ++ [h.reporter.report ctx fault] := by
  have horigin := h.reporter.report_origin ctx fault
  rw [settle_events_of_parked hparked, Log.reports_append]
  refine congrArg (Log.reports reply.events ++ ·) ?_
  rw [Log.reports, List.filter_cons_of_pos (by simpa using horigin), ← Log.reports,
    reports_resolving]

/-! ## Layers around a layer -/

/-- One layer more changes nothing, whatever it is made of. -/
theorem layer_layer (hp : h.presentation.ParksNothing) (inner : Service σ) (freshId : String)
    (other : FaultHandler) (otherId : String) :
    other.layer (h.layer inner freshId) otherId = h.layer inner freshId := by
  funext request state
  rcases Inspection.read_cases otherId request with ⟨event, hr⟩ | ⟨ctx, hr, _⟩
  · rw [layer_rejected hr, layer_rejected (Inspection.read_rejected hr freshId)]
  · rw [layer_accepted hr]
    exact settle_of_none ctx (layer_parked hp inner freshId request state)

/-- A service in layers, the last of the list innermost. Each layer has ids of its own. -/
def layers (stack : List (FaultHandler × String)) (inner : Service σ) : Service σ :=
  stack.foldr (fun outer service => outer.1.layer service outer.2) inner

theorem layers_layer (hp : h.presentation.ParksNothing) (inner : Service σ) (freshId : String)
    (stack : List (FaultHandler × String)) :
    layers stack (h.layer inner freshId) = h.layer inner freshId := by
  induction stack with
  | nil => rfl
  | cons outer stack ih =>
      show outer.1.layer (layers stack (h.layer inner freshId)) outer.2 = _
      rw [ih]
      exact layer_layer hp inner freshId outer.1 outer.2

/-- Behind a layer whose presentation parks nothing no fault is left, on whatever way the
reply came out of it. A fault that the service returned is reported once, and after the
report comes only what is logged of resolving it. So a second layer around the first, of
any other making, replies to every request what the first one replies, with the same
response, the same events and the same state; and so do any number of them. -/
theorem fault_handled_once (h : FaultHandler) (inner : Service σ) (freshId : String)
    (hp : h.presentation.ParksNothing) :
    (∀ request state, (h.layer inner freshId request state).response.parked = none) ∧
    (∀ request state ctx fault, Inspection.read freshId request = .accepted ctx request →
      (inner request state).response.parked = some fault →
      (h.layer inner freshId request state).events =
        (inner request state).events ++
          h.reporter.report ctx fault :: h.resolving ctx fault ∧
      Log.reports (h.layer inner freshId request state).events =
        Log.reports (inner request state).events ++ [h.reporter.report ctx fault]) ∧
    (∀ (other : FaultHandler) (otherId : String) (request : Request) (state : σ),
      other.layer (h.layer inner freshId) otherId request state =
        h.layer inner freshId request state) ∧
    ∀ stack, layers stack (h.layer inner freshId) = h.layer inner freshId := by
  refine ⟨?_, ?_, ?_, ?_⟩
  · intro request state
    exact layer_parked hp inner freshId request state
  · intro request state ctx fault hread hparked
    rw [layer_accepted hread]
    exact ⟨settle_events_of_parked hparked, reports_settle hparked⟩
  · intro other otherId request state
    rw [layer_layer hp]
  · intro stack
    exact layers_layer hp inner freshId stack

/-- A fault that cannot be resolved leaves one report and one more event, also behind a
second layer that could have resolved it. -/
theorem fault_handled_once_hollow :
    let once := (FaultHandler.plain hollowResolver ⟨true⟩).layer closing "fresh"
    (once asking ()).response.parked = none ∧
    Log.reports (once asking ()).events =
      [Reporter.noteEvent ⟨"/api/orders", false, "r-1"⟩ (.maintenance ⟨some 30⟩)] ∧
    (FaultHandler.plain ⟨.defaults, "/api"⟩ ⟨false⟩).layer once "other" asking () =
      once asking () := by
  obtain ⟨hparked, hevents, hother, _⟩ :=
    fault_handled_once (.plain hollowResolver ⟨true⟩) closing "fresh"
      Presentation.plain_parksNothing
  have hread : Inspection.read "fresh" asking =
      .accepted ⟨"/api/orders", false, "r-1"⟩ asking := by rfl
  exact ⟨hparked asking (), (hevents asking () _ _ hread rfl).2,
    hother (.plain ⟨.defaults, "/api"⟩ ⟨false⟩) "other" asking ()⟩

end FaultHandler

end FaultGate
