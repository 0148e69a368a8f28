import FaultGate.Proofs.SwitchRuns

/-!
# What maintenance stops, and what it does not

Under maintenance a request either meets the layer and goes no further, or the
layer might as well not be there. This file proves both halves for the whole
server, from the request to the bytes that are sent, because on the way the
answer passes through the fault handling, which knows nothing of maintenance,
and through the rules for single methods, which know nothing of either.

That nothing further in is consulted is said by comparing services: the reply
is the same whatever service the layers stand around. What the reply is follows
from the settings. Inside the scope it is the body of the fault that is
declared for the kind that stands in for maintenance, and the signal with its
waiting time is dropped on the way; outside it the plain presentation of the
signal is all there is.

One thing is decided after that. A request that wants no body gets none, even
under maintenance, and this is not a matter of the layer: the rules for single
methods stand outside of it. `sentTo` keeps the two apart.
-/

namespace FaultGate

namespace Http.Response

theorem listing_eq {r : Response} (h : r.header? "allow" = none)
    (methods : Option String) :
    r.listing methods =
      { r with headers := r.headers ++ methods.toList.map fun m => ("allow", m) } := by
  rw [listing.eq_def]
  cases methods with
  | none => simp only [Option.toList_none, List.map_nil, List.append_nil]
  | some m =>
      simp only [h, Option.isSome_none, Bool.false_eq_true, if_false]
      rfl

end Http.Response

namespace Server

open FaultGate.Http (Reply Request Response Service)

variable {server : Server} {freshId : String} {request : Request} {c : Condition}

/-! ## What is decided last -/

/-- Does the response to a request have no body, whatever is answered with
that status? A tunnel that is accepted has none, and a request for headers has
none where a route was found. -/
def wantsNoBody (request : Request) (status : Status) : Bool :=
  request.method = "CONNECT" && status.isSuccess ||
    request.method = "HEAD" && !keepsBody request

/-- The header that lists the methods of the route, where the request asked
with none of them. -/
def allowHeaders (request : Request) (status : Status) : List (String × String) :=
  if request.method = "CONNECT" && status.isSuccess then []
  else (listedMethods? request).toList.map fun methods => ("allow", methods)

theorem forMethod_eq {r : Response} (h : r.header? "allow" = none)
    (request : Request) :
    r.forMethod request.method (listedMethods? request) (keepsBody request) =
      { r with
        headers := r.headers ++ allowHeaders request r.status
        body := if wantsNoBody request r.status then [] else r.body } := by
  rw [Response.forMethod, allowHeaders, wantsNoBody, Response.listing_eq h]
  cases decide (request.method = "CONNECT") && r.status.isSuccess with
  | true =>
      simp only [Bool.true_or, if_true, List.append_nil]
      rfl
  | false =>
      simp only [Bool.false_or, Bool.false_eq_true, if_false]
      cases decide (request.method = "HEAD") && !keepsBody request with
      | true => rfl
      | false => rfl

/-! ## The server around any service -/

/-- What answers a request with the layer of fault handling alone. -/
def ungated (server : Server) (freshId : String) : Service Condition :=
  server.faults.layer (innermost server) freshId

/-- The reply of a server to a request, for a reply from inside. -/
def sentTo (request : Request) (reply : Reply Condition) : Reply Condition :=
  { reply with
    response := reply.response.forMethod request.method (listedMethods? request)
      (keepsBody request) }

theorem serve_eq_sentTo (server : Server) (freshId : String) (request : Request)
    (c : Condition) :
    serve server freshId request c =
      sentTo request (layered server freshId request c) := rfl

/-- The layer of fault handling asks the service inside for one reply at most,
to the very request. -/
theorem faults_layer_congr {faults : FaultHandler} {inner inner' : Service Condition}
    (h : inner request c = inner' request c) :
    faults.layer inner freshId request c = faults.layer inner' freshId request c := by
  rcases Inspection.read_cases freshId request with ⟨event, hr⟩ | ⟨ctx, hr, _⟩
  · rw [FaultHandler.layer_rejected hr, FaultHandler.layer_rejected hr]
  · rw [FaultHandler.layer_accepted hr, FaultHandler.layer_accepted hr, h]

/-- Is the request one that maintenance stops? -/
def Stopped (server : Server) (request : Request) (c : Condition) : Prop :=
  server.switch.isOn c = true ∧ server.switch.excepts request.uri.path = false

/-- A request that is not stopped is served as if there were no maintenance. -/
theorem layered_of_not_stopped (h : ¬Stopped server request c) :
    layered server freshId request c = ungated server freshId request c := by
  refine faults_layer_congr ?_
  cases hon : server.switch.isOn c with
  | false => exact MaintenanceSwitch.layer_of_off hon _ _
  | true =>
      cases he : server.switch.excepts request.uri.path with
      | false => exact absurd ⟨hon, he⟩ h
      | true => exact MaintenanceSwitch.layer_of_excepted he _ _

/-- The reply to a request that is stopped, whatever service stands inside. -/
theorem layers_of_stopped (h : Stopped server request c) {ctx : RequestContext}
    (hr : Inspection.read freshId request = .accepted ctx request)
    (inner : Service Condition) :
    server.faults.layer (server.switch.layer inner) freshId request c =
      server.faults.settle ctx
        ⟨.park (.maintenance server.switch.signal),
          [MaintenanceSwitch.rejectionEvent request.uri.path], c⟩ := by
  rw [FaultHandler.layer_accepted hr, MaintenanceSwitch.layer_of_not_excepted h.1 h.2]

/-! ## The announcement -/

/-- The response that a fault is presented with becomes the reply, and the
fault is noted after what was logged before. -/
theorem settle_maintenance {faults : FaultHandler} {ctx : RequestContext}
    {signal : MaintenanceSignal} {response : Response}
    (ha : faults.answer ctx (.maintenance signal) = .ok response)
    (logged : List Log.Event) (c : Condition) :
    faults.settle ctx ⟨.park (.maintenance signal), logged, c⟩ =
      ⟨response, logged ++ [Reporter.noteEvent ctx (.maintenance signal)], c⟩ := by
  have hp : (Reply.mk (.park (.maintenance signal)) logged c).response.parked =
      some (.maintenance signal) := rfl
  exact FaultHandler.settle_of_ok hp ha

/-- Inside the scope the stand-in answers, and the signal does not. -/
theorem answer_maintenance_inside {faults : FaultHandler} {ctx : RequestContext}
    (hs : ctx.inScope faults.resolver.scope = true) {f : DomainFault}
    (hf : faults.resolver.substitute .maintenance Resolver.maintenanceMessage = .ok f)
    (signal : MaintenanceSignal) :
    faults.answer ctx (.maintenance signal) = .ok (.ofErrorBody (f.body ctx)) := by
  refine FaultHandler.answer_of_json ?_
  rw [Resolver.render_maintenance hs, hf]
  rfl

/-- Outside it the presentation answers. -/
theorem answer_maintenance_outside {faults : FaultHandler} {ctx : RequestContext}
    (hs : ctx.inScope faults.resolver.scope = false) (signal : MaintenanceSignal) :
    faults.answer ctx (.maintenance signal) =
      .ok (faults.presentation ctx faults.posture (.maintenance signal)) :=
  FaultHandler.answer_of_delegate (Resolver.render_outside hs _)

/-- The plain presentation of the signal, with its waiting time in a header. -/
theorem plain_maintenance (ctx : RequestContext) (posture : Posture)
    (signal : MaintenanceSignal) :
    Presentation.plain ctx posture (.maintenance signal) =
      { status := .serviceUnavailable
        headers := ("content-type", "text/plain; charset=utf-8") ::
          (signal.retryAfter.map fun n => ("retry-after", Nat.repr n.toNat)).toList
        body := Text.utf8 "Service Unavailable"
        parked := none } := by
  rw [Presentation.plain]
  cases signal.retryAfter with
  | none => rfl
  | some n => rfl

/-! ## The whole server under maintenance -/

section Stopped

variable {s : Settings.Server} {events : List Log.Event} {ctx : RequestContext}

theorem excepts_of_ofSettings (h : ofSettings s = (.ok server, events))
    (path : String) :
    server.switch.excepts path =
      (beginsWith path "/healthz" || beginsWith path "/admin/maintenance") := by
  obtain ⟨_, _, hswitch⟩ := ofSettings_eq_ok h
  rw [hswitch]
  show [healthPath, maintenancePath].any (beginsWith path) = _
  simp only [List.any_cons, List.any_nil, Bool.or_false, healthPath, maintenancePath]

theorem isOn_of_ofSettings (h : ofSettings s = (.ok server, events)) (c : Condition) :
    server.switch.isOn c = (c.toggle || s.maintenance.flagPath.any c.files.has) := by
  obtain ⟨_, _, hswitch⟩ := ofSettings_eq_ok h
  rw [hswitch]
  rfl

/-- What is logged about a request that is stopped. -/
def stopEvents (s : Settings.Server) (ctx : RequestContext) (request : Request) :
    List Log.Event :=
  [MaintenanceSwitch.rejectionEvent request.uri.path,
    Reporter.noteEvent ctx (.maintenance ⟨s.maintenance.retryAfter⟩)]

/-- A request inside the scope that is stopped. What is declared for the
stand-in is all that the answer takes from the settings. -/
theorem serve_of_stopped_inside (h : ofSettings s = (.ok server, events))
    (hr : Inspection.read freshId request = .accepted ctx request)
    (hstop : Stopped server request c)
    (hs : beginsWith request.uri.path s.handler.scope = true) :
    ∃ d, s.handler.declarations.lookup (s.handler.kindOf .maintenance) = some d ∧
      serve server freshId request c =
        { response := {
            status := d.status
            headers := ("content-type", "application/json") ::
              allowHeaders request d.status
            body :=
              if wantsNoBody request d.status then []
              else Text.utf8 (ErrorBody.json {
                code := d.code
                status := d.status.toUInt16
                message := "Maintaining"
                requestId := ctx.requestId
                details := [] })
            parked := none }
          events := stopEvents s ctx request
          state := c } := by
  obtain ⟨_, hfaults, hswitch⟩ := ofSettings_eq_ok h
  obtain ⟨d, hd, hsubstitute⟩ := substitute_of_ofSettings h .maintenance
  obtain ⟨_, hpath⟩ := Inspection.read_accepted hr
  have hscope : ctx.inScope server.faults.resolver.scope = true := by
    rw [RequestContext.inScope, hpath, hfaults]
    exact hs
  have ha := answer_maintenance_inside hscope
    (hsubstitute Resolver.maintenanceMessage) server.switch.signal
  refine ⟨d, hd, ?_⟩
  rw [serve_eq_sentTo, layered, layers_of_stopped hstop hr, settle_maintenance ha,
    sentTo, Response.ofErrorBody, Response.json]
  simp only [ApiFault.toDomain, ApiFault.httpStatus_body]
  rw [forMethod_eq rfl, hswitch]
  simp only [Declaration.fault_status, Declaration.fault_body]
  rfl

/-- A request outside the scope that is stopped. -/
theorem serve_of_stopped_outside (h : ofSettings s = (.ok server, events))
    (hr : Inspection.read freshId request = .accepted ctx request)
    (hstop : Stopped server request c)
    (hs : beginsWith request.uri.path s.handler.scope = false) :
    serve server freshId request c =
      { response := {
          status := .serviceUnavailable
          headers := ("content-type", "text/plain; charset=utf-8") ::
            (s.maintenance.retryAfter.map fun n =>
              ("retry-after", Nat.repr n.toNat)).toList ++
            allowHeaders request .serviceUnavailable
          body :=
            if wantsNoBody request .serviceUnavailable then []
            else Text.utf8 "Service Unavailable"
          parked := none }
        events := stopEvents s ctx request
        state := c } := by
  obtain ⟨_, hfaults, hswitch⟩ := ofSettings_eq_ok h
  obtain ⟨_, hpath⟩ := Inspection.read_accepted hr
  have hscope : ctx.inScope server.faults.resolver.scope = false := by
    rw [RequestContext.inScope, hpath, hfaults]
    exact hs
  have ha := answer_maintenance_outside hscope server.switch.signal
  have hplain : server.faults.presentation = Presentation.plain := by
    rw [hfaults]
    rfl
  rw [hplain, plain_maintenance] at ha
  rw [serve_eq_sentTo, layered, layers_of_stopped hstop hr, settle_maintenance ha, sentTo,
    forMethod_eq, hswitch]
  · rfl
  · cases server.switch.signal.retryAfter with
    | none => rfl
    | some n => rfl

end Stopped

/-- Under maintenance every request that gets past the inspection is answered
by what the settings declare, but for the two paths that are excepted, and
nothing that stands inside the layers has a say or changes anything. Every
other request is served as if there were no maintenance. -/
theorem maintenance_gate_exact {s : Settings.Server} {events : List Log.Event}
    (h : ofSettings s = (.ok server, events)) (c : Condition) (freshId : String)
    (request : Request) :
    -- The gate is closed.
    (∀ ctx, Inspection.read freshId request = .accepted ctx request →
      (c.toggle || s.maintenance.flagPath.any c.files.has) = true →
      beginsWith request.uri.path "/healthz" = false →
      beginsWith request.uri.path "/admin/maintenance" = false →
      -- No service inside is consulted, and nothing is changed.
      (∀ inner : Service Condition,
        server.faults.layer (server.switch.layer inner) freshId request c =
          layered server freshId request c) ∧
      (serve server freshId request c).state = c ∧
      -- Inside the scope the stand-in answers.
      (beginsWith request.uri.path s.handler.scope = true →
        ∃ d, s.handler.declarations.lookup (s.handler.kindOf .maintenance) = some d ∧
          (serve server freshId request c).response =
            { status := d.status
              headers := ("content-type", "application/json") ::
                allowHeaders request d.status
              body :=
                if wantsNoBody request d.status then []
                else Text.utf8 (ErrorBody.json {
                  code := d.code
                  status := d.status.toUInt16
                  message := "Maintaining"
                  requestId := ctx.requestId
                  details := [] })
              parked := none }) ∧
      -- Outside of it the signal is announced with its waiting time.
      (beginsWith request.uri.path s.handler.scope = false →
        (serve server freshId request c).response =
          { status := .serviceUnavailable
            headers := ("content-type", "text/plain; charset=utf-8") ::
              (s.maintenance.retryAfter.map fun n =>
                ("retry-after", Nat.repr n.toNat)).toList ++
              allowHeaders request .serviceUnavailable
            body :=
              if wantsNoBody request .serviceUnavailable then []
              else Text.utf8 "Service Unavailable"
            parked := none })) ∧
    -- The gate is open.
    (¬((c.toggle || s.maintenance.flagPath.any c.files.has) = true ∧
        beginsWith request.uri.path "/healthz" = false ∧
        beginsWith request.uri.path "/admin/maintenance" = false) →
      serve server freshId request c =
        sentTo request (ungated server freshId request c)) := by
  have hstopped : Stopped server request c ↔
      ((c.toggle || s.maintenance.flagPath.any c.files.has) = true ∧
        beginsWith request.uri.path "/healthz" = false ∧
        beginsWith request.uri.path "/admin/maintenance" = false) := by
    rw [Stopped, isOn_of_ofSettings h, excepts_of_ofSettings h, Bool.or_eq_false_iff]
  refine ⟨fun ctx hr hon hhealth hadmin => ?_, fun hopen => ?_⟩
  · have hstop := hstopped.mpr ⟨hon, hhealth, hadmin⟩
    refine ⟨fun inner => ?_, ?_, fun hs => ?_, fun hs => ?_⟩
    · rw [layered, layers_of_stopped hstop hr, layers_of_stopped hstop hr]
    · cases hs : beginsWith request.uri.path s.handler.scope with
      | false => rw [serve_of_stopped_outside h hr hstop hs]
      | true =>
          obtain ⟨d, _, hserve⟩ := serve_of_stopped_inside h hr hstop hs
          rw [hserve]
    · obtain ⟨d, hd, hserve⟩ := serve_of_stopped_inside h hr hstop hs
      exact ⟨d, hd, by rw [hserve]⟩
    · rw [serve_of_stopped_outside h hr hstop hs]
  · rw [serve_eq_sentTo, layered_of_not_stopped (fun hs => hopen (hstopped.mp hs))]

/-- A request for the headers of a path that has a route. -/
def headersOfPing : Request where
  method := "HEAD"
  uri := ⟨"/api/v1/ping", none⟩
  headers := []
  body := []

theorem read_headersOfPing (freshId : String) :
    Inspection.read freshId headersOfPing =
      .accepted ⟨"/api/v1/ping", false, freshId⟩ headersOfPing := rfl

/-- The least server under maintenance answers a request for headers with the
headers of the announcement. -/
theorem maintenance_gate_exact_least :
    ∃ server events, ofSettings .least = (.ok server, events) ∧
      ∀ freshId, ∃ d : Declaration,
        (serve server freshId headersOfPing ⟨true, .empty⟩).response =
          { status := d.status
            headers := [("content-type", "application/json")]
            body := []
            parked := none } := by
  obtain ⟨server, events, h⟩ := ofSettings_least
  refine ⟨server, events, h, fun freshId => ?_⟩
  obtain ⟨_, _, hinside, _⟩ :=
    (maintenance_gate_exact h ⟨true, .empty⟩ freshId headersOfPing).1 _
      (read_headersOfPing freshId) rfl (by decide) (by decide)
  obtain ⟨d, _, hresponse⟩ := hinside (by decide)
  exact ⟨d, hresponse⟩

/-- So it is not the case that the stand-in answers with its body whatever the
method. -/
theorem not_every_method_gets_the_body :
    ¬∀ (s : Settings.Server) (server : Server) (events : List Log.Event),
      ofSettings s = (.ok server, events) →
      ∀ (c : Condition) (freshId : String) (request : Request) (ctx : RequestContext),
        Inspection.read freshId request = .accepted ctx request →
        server.switch.isOn c = true →
        beginsWith request.uri.path "/healthz" = false →
        beginsWith request.uri.path "/admin/maintenance" = false →
        beginsWith request.uri.path s.handler.scope = true →
        ∃ d, s.handler.declarations.lookup (s.handler.kindOf .maintenance) = some d ∧
          (serve server freshId request c).response.body =
            Text.utf8 (ErrorBody.json {
              code := d.code
              status := d.status.toUInt16
              message := "Maintaining"
              requestId := ctx.requestId
              details := [] }) := by
  intro hall
  obtain ⟨server, events, h⟩ := ofSettings_least
  have hon : server.switch.isOn ⟨true, .empty⟩ = true := by
    rw [isOn_of_ofSettings h, Bool.true_or]
  obtain ⟨d, hd, hbody⟩ := hall _ server events h ⟨true, .empty⟩ "fresh"
    headersOfPing _ (read_headersOfPing "fresh") hon (by decide) (by decide) (by decide)
  have hexcept : server.switch.excepts headersOfPing.uri.path = false := by
    rw [excepts_of_ofSettings h]
    decide
  obtain ⟨d', hd', hserve⟩ := serve_of_stopped_inside h (read_headersOfPing "fresh")
    ⟨hon, hexcept⟩ (by decide)
  rw [hserve] at hbody
  injection hd with hd
  injection hd' with hd'
  subst hd hd'
  exact absurd hbody (by decide +kernel)

end Server

end FaultGate
