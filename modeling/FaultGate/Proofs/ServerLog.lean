import FaultGate.Proofs.MaintenanceGate
import FaultGate.Proofs.SteadyKinds
import Mathlib.Data.List.Nodup

/-!
# What a running server logs, and what it answers a used-up quota with

Making a server checks one name. That the fault of the name can be raised with
the message of the endpoint, and that the kinds of both roles can stand in with
theirs, is not checked, and three places in the server have a branch for the case
that it does not work. They are never entered. The registry was built of
declared faults, so the laws of steady kinds hold of it, and a run cannot change
the registry.

With these branches out of the way there is one source of errors left in the log:
an unknown error that reaches the layer of fault handling. One endpoint raises
one, and the reporter of a server ignores no text, so the errors of a run are
told by its requests, each in the condition that it met. `moments` is the list of
these. A run is served moment by moment, hence every law about one moment is a
law about runs.
-/

namespace FaultGate

open FaultGate.Http (Reply Request Response)

/-- Not an error, and not one of the two events about a configuration that does
not fit. -/
structure Log.Event.Harmless (event : Log.Event) : Prop where
  level : event.level ≠ .error
  kinds : event.message ≠ "exception kind misconfigured"
  handler : event.message ≠ "exception handler misconfigured"

theorem Reporter.noteEvent_harmless (ctx : RequestContext) (fault : Fault) :
    (noteEvent ctx fault).Harmless :=
  ⟨by simp [noteEvent], by simp [noteEvent], by simp [noteEvent]⟩

theorem RegistryBuilder.boundEvent_harmless (role : Role) (kind : String) :
    (boundEvent role kind).Harmless :=
  ⟨by simp [boundEvent], by simp [boundEvent], by simp [boundEvent]⟩

theorem MaintenanceSwitch.rejectionEvent_harmless (path : String) :
    (rejectionEvent path).Harmless :=
  ⟨by simp [rejectionEvent], by simp [rejectionEvent], by simp [rejectionEvent]⟩

theorem Inspection.rejected_harmless {freshId : String} {request : Request}
    {event : Log.Event} (h : read freshId request = .rejected event) : event.Harmless := by
  rw [read] at h
  split at h
  · cases h
  · split at h
    · injection h with h
      subst h
      exact ⟨by simp [rejectionEvent], by simp [rejectionEvent], by simp [rejectionEvent]⟩
    · cases h

theorem Reporter.report_of_not_unknown {r : Reporter} {ctx : RequestContext} {fault : Fault}
    (h : ∀ e, fault ≠ .unknown e) : r.report ctx fault = noteEvent ctx fault := by
  cases fault with
  | domain f => rfl
  | maintenance signal => rfl
  | unknown e => exact absurd rfl (h e)

namespace ApiFault

theorem response_body (f : ApiFault) (ctx : RequestContext) :
    Response.ofErrorBody (f.toDomain.body ctx) = .json f.status (f.body ctx).json := by
  show Response.json (f.body ctx).httpStatus (f.body ctx).json = _
  rw [httpStatus_body]

end ApiFault

/-- How a declared fault is presented where the host has no presentation of its
own. -/
theorem FaultHandler.presented_declared {h : FaultHandler} (hp : h.presentation = .plain)
    (f : ApiFault) (ctx : RequestContext) :
    h.presented ctx (.domain f.toDomain) =
      if ctx.inScope h.resolver.scope then .json f.status (f.body ctx).json
      else .text f.status f.message := by
  rw [presented]
  cases hs : ctx.inScope h.resolver.scope with
  | true =>
      rw [answer_domain_inside hs]
      exact f.response_body ctx
  | false =>
      rw [answer_domain_outside hp hs]
      exact congrArg (Response.text · f.message) (f.httpStatus_body ctx)

namespace Server

variable {server : Server} {freshId : String} {request : Request} {c : Condition}

/-! ## The requests of a run -/

/-- A request of a run, in the condition that it met. -/
structure Moment where
  condition : Condition
  freshId : String
  request : Request

def Moment.reply (m : Moment) (server : Server) : Reply Condition :=
  serve server m.freshId m.request m.condition

def moments (server : Server) : Condition → List Step → List Moment
  | _, [] => []
  | c, .request freshId request :: rest =>
    ⟨c, freshId, request⟩ :: moments server (serve server freshId request c).state rest
  | c, .files change :: rest => moments server { c with files := change c.files } rest

theorem run_eq_moments (server : Server) (c : Condition) (steps : List Step) :
    run server c steps =
      (moments server c steps).map fun m => (m.request, m.reply server) := by
  induction steps generalizing c with
  | nil => rfl
  | cons s steps ih =>
      cases s with
      | request freshId request =>
          rw [run, moments, List.map_cons, ← ih]
          rfl
      | files change =>
          rw [run, moments, ← ih]
          rfl

/-- The request gets to what stands inside the layers. -/
structure Moment.Arrives (m : Moment) (server : Server) (ctx : RequestContext) : Prop where
  inspected : Inspection.read m.freshId m.request = .accepted ctx m.request
  passed : ¬ Stopped server m.request m.condition

theorem Moment.reply_of_arrives {m : Moment} {ctx : RequestContext}
    (h : m.Arrives server ctx) :
    m.reply server =
      sentTo m.request (server.faults.settle ctx (innermost server m.request m.condition)) := by
  rw [reply, serve_eq_sentTo, layered_of_not_stopped h.passed, ungated,
    FaultHandler.layer_accepted h.inspected]

/-! ## The endpoint that fails -/

/-- Is the request sent to the endpoint that fails? -/
def AsksToCrash (request : Request) : Prop :=
  (request.method = "GET" ∨ request.method = "HEAD") ∧
    (request.uri.path = "/api/v1/crash" ∨ request.uri.path = "/crash")

theorem innermost_of_crash (h : AsksToCrash request) (c : Condition) :
    innermost server request c = .quiet (.park (.unknown Endpoint.crashError)) c := by
  obtain ⟨hm, hp⟩ := h
  have hroute : ∃ path, route? request.uri.path = some ⟨path, some .crash, none⟩ := by
    rcases hp with hp | hp
    · exact ⟨"/api/v1/crash", by rw [hp]; decide⟩
    · exact ⟨"/crash", by rw [hp]; decide⟩
  obtain ⟨path, hroute⟩ := hroute
  rw [innermost, hroute]
  rcases hm with hm | hm
  · simp only [hm]
    rfl
  · simp only [hm]
    rfl

/-- No other route and no other method leads there. -/
theorem asksToCrash_of_endpoint? {route : Route}
    (hr : route? request.uri.path = some route)
    (he : route.endpoint? request.method = some .crash) : AsksToCrash request := by
  obtain ⟨hmem, hpath, hleads⟩ := leads_of_endpoint? hr he
  rw [AsksToCrash, ← hpath]
  simp only [routes, List.mem_cons, List.not_mem_nil, or_false] at hmem
  obtain rfl | rfl | rfl | rfl | rfl | rfl := hmem <;> simp at hleads ⊢ <;> exact hleads

section Accepted

variable {s : Settings.Server} {events : List Log.Event}

theorem contains_of_ofSettings (h : ofSettings s = (.ok server, events)) :
    server.registry.contains quotaExceeded = true := by
  rw [ofSettings] at h
  split at h
  · cases h
  · split at h
    · cases h
    · rename_i hc
      injection h with h
      injection h with h
      subst h
      rw [Bool.not_eq_true', Bool.not_eq_false] at hc
      exact hc

/-- The kind that an endpoint raises is declared, and it is raised with any
message. -/
theorem instantiate_quota (h : ofSettings s = (.ok server, events)) :
    ∃ d, s.handler.declarations.lookup quotaExceeded = some d ∧
      ∀ message, server.registry.instantiate quotaExceeded message =
        .ok (d.fault quotaExceeded message).toDomain := by
  obtain ⟨hr, _, _⟩ := ofSettings_eq_ok h
  have hc := contains_of_ofSettings h
  rw [Registry.contains, (Settings.Handler.buildRegistry_eq_ok hr).1, Option.isSome_map,
    Option.isSome_iff_exists] at hc
  obtain ⟨d, hd⟩ := hc
  exact ⟨d, hd, Settings.Handler.instantiate_of_declared hr hd⟩

/-- The declaration in force is the one in the settings, for the name is none of
the built-in ones. -/
theorem quota_of_lookup {d : Declaration}
    (h : s.handler.declarations.lookup quotaExceeded = some d) :
    ∃ own ∈ s.handler.faults, own.name = quotaExceeded ∧ d.code = ⟨own.code⟩ ∧
      d.status.code = own.status.toNat := by
  obtain ⟨before, after, heq, _⟩ := List.lookup_eq_some_iff.mp h
  have hmem : (quotaExceeded, d) ∈ s.handler.declarations := by
    rw [heq]
    exact List.mem_append_right _ (List.mem_cons_self ..)
  rw [Settings.Handler.declarations, List.mem_append, List.mem_filterMap] at hmem
  rcases hmem with hmem | ⟨own, hown, hentry⟩
  · have hname : quotaExceeded ∈ Declaration.builtins.map Prod.fst :=
      List.mem_map_of_mem (f := Prod.fst) hmem
    exact absurd hname (by decide)
  · obtain ⟨status, hstatus, hd⟩ := Option.map_eq_some_iff.mp hentry
    injection hd with hname hd
    subst hd
    refine ⟨own, hown, hname, rfl, ?_⟩
    rw [Status.ofNat?] at hstatus
    split at hstatus
    · injection hstatus with hstatus
      rw [← hstatus]
    · cases hstatus

theorem faults_exists_answer (h : ofSettings s = (.ok server, events))
    (ctx : RequestContext) (fault : Fault) :
    ∃ response, server.faults.answer ctx fault = .ok response := by
  obtain ⟨hr, hfaults, _⟩ := ofSettings_eq_ok h
  refine FaultHandler.exists_answer ?_ ctx fault
  rw [hfaults]
  exact (Settings.Handler.answersAll_of_buildRegistry hr).renders

/-- The branch for a fault that cannot be resolved is never entered. -/
theorem settle_events (h : ofSettings s = (.ok server, events)) (ctx : RequestContext)
    {reply : Reply Condition} {fault : Fault} (hp : reply.response.parked = some fault) :
    (server.faults.settle ctx reply).events =
      reply.events ++ [Reporter.empty.report ctx fault] := by
  obtain ⟨_, hfaults, _⟩ := ofSettings_eq_ok h
  obtain ⟨response, ha⟩ := faults_exists_answer h ctx fault
  rw [FaultHandler.settle_of_ok hp ha, hfaults]
  rfl

/-! ## What a moment adds to the log -/

theorem innermost_of_not_crash (h : ofSettings s = (.ok server, events))
    (hn : ¬ AsksToCrash request) (c : Condition) :
    (∀ event ∈ (innermost server request c).events, event.Harmless) ∧
      ∀ e, (innermost server request c).response.parked ≠ some (.unknown e) := by
  have hquiet : ∀ {response : Response}, response.parked = none →
      (∀ event ∈ (Reply.quiet response c).events, event.Harmless) ∧
        ∀ e, (Reply.quiet response c).response.parked ≠ some (.unknown e) := by
    intro response hp
    refine ⟨fun event he => (by cases he), fun e he => ?_⟩
    rw [show (Reply.quiet response c).response.parked = none from hp] at he
    cases he
  rw [innermost]
  split
  · exact hquiet rfl
  · rename_i route hr
    split
    · exact hquiet rfl
    · rename_i endpoint he
      cases endpoint with
      | health => exact hquiet rfl
      | maintenanceStatus => exact hquiet rfl
      | ping => exact hquiet rfl
      | crash => exact absurd (asksToCrash_of_endpoint? hr he) hn
      | switchMaintenance =>
          simp only [Endpoint.answer]
          cases Toggle.ofRequest request with
          | error refusal => exact hquiet (by cases refusal <;> rfl)
          | ok on =>
              refine ⟨fun event hm => ?_, fun e hp => by cases hp⟩
              rw [List.mem_singleton.mp hm]
              exact ⟨by simp [Endpoint.switchedEvent], by simp [Endpoint.switchedEvent],
                by simp [Endpoint.switchedEvent]⟩
      | quota =>
          obtain ⟨d, _, hd⟩ := instantiate_quota h
          simp only [Endpoint.answer, hd]
          refine ⟨fun event hm => (by cases hm), fun e hp => ?_⟩
          injection hp with hp
          cases hp

/-- The one source of errors. -/
theorem reply_events_of_crash (h : ofSettings s = (.ok server, events)) {m : Moment}
    {ctx : RequestContext} (ha : m.Arrives server ctx) (hc : AsksToCrash m.request) :
    (m.reply server).events = [Reporter.errorEvent ctx Endpoint.crashError] := by
  have hp : (innermost server m.request m.condition).response.parked =
      some (.unknown Endpoint.crashError) := by
    rw [innermost_of_crash hc]
    rfl
  rw [Moment.reply_of_arrives ha]
  change (server.faults.settle ctx _).events = _
  rw [settle_events h ctx hp, innermost_of_crash hc]
  rfl

theorem reply_events_harmless (h : ofSettings s = (.ok server, events)) {m : Moment}
    (hn : ¬ (AsksToCrash m.request ∧ ∃ ctx, m.Arrives server ctx)) :
    ∀ event ∈ (m.reply server).events, event.Harmless := by
  intro event he
  rcases Inspection.read_cases m.freshId m.request with ⟨rejection, hread⟩ | ⟨ctx, hread, _⟩
  · rw [Moment.reply, serve_eq_sentTo, layered_rejected hread] at he
    rw [List.mem_singleton.mp he]
    exact Inspection.rejected_harmless hread
  · by_cases hstop : Stopped server m.request m.condition
    · -- the signal is noted after the rejection, and no endpoint is asked
      rw [Moment.reply, serve_eq_sentTo, layered, layers_of_stopped hstop hread] at he
      have hp : (Reply.mk (.park (.maintenance server.switch.signal))
          [MaintenanceSwitch.rejectionEvent m.request.uri.path] m.condition).response.parked =
            some (.maintenance server.switch.signal) := rfl
      change event ∈ (server.faults.settle ctx _).events at he
      rw [settle_events h ctx hp] at he
      rcases List.mem_cons.mp he with rfl | he
      · exact MaintenanceSwitch.rejectionEvent_harmless _
      · rw [List.mem_singleton.mp he]
        exact Reporter.noteEvent_harmless _ _
    · have ha : m.Arrives server ctx := ⟨hread, hstop⟩
      have hcrash : ¬ AsksToCrash m.request := fun hc => hn ⟨hc, ctx, ha⟩
      obtain ⟨hinner, hfault⟩ := innermost_of_not_crash h hcrash m.condition
      rw [Moment.reply_of_arrives ha] at he
      change event ∈ (server.faults.settle ctx _).events at he
      cases hp : (innermost server m.request m.condition).response.parked with
      | none =>
          rw [FaultHandler.settle_of_none ctx hp] at he
          exact hinner event he
      | some fault =>
          rw [settle_events h ctx hp, List.mem_append] at he
          rcases he with he | he
          · exact hinner event he
          · rw [List.mem_singleton.mp he, Reporter.report_of_not_unknown]
            · exact Reporter.noteEvent_harmless ctx fault
            · rintro e rfl
              exact hfault e hp

/-! ## The endpoint that raises a declared fault -/

/-- Is the request sent to the endpoint that raises the declared fault? -/
def AsksForQuota (request : Request) : Prop :=
  request.method = "POST" ∧ request.uri.path = "/api/v1/quota"

theorem innermost_of_quota (h : AsksForQuota request) {f : DomainFault}
    (hf : server.registry.instantiate quotaExceeded Endpoint.quotaMessage = .ok f)
    (c : Condition) :
    innermost server request c = .quiet (.park (.domain f)) c := by
  obtain ⟨hm, hp⟩ := h
  rw [innermost, hp, show route? "/api/v1/quota" = some ⟨"/api/v1/quota", none, some .quota⟩
    by decide]
  simp only [hm]
  show Endpoint.quota.answer server request c = _
  simp only [Endpoint.answer, hf]

theorem sentTo_of_quota (h : AsksForQuota request) (reply : Reply Condition) :
    sentTo request reply = reply := by
  obtain ⟨hm, hp⟩ := h
  have hlist : listedMethods? request = none := by
    rw [listedMethods?, hp, hm]
    decide
  rw [sentTo, hlist, Response.forMethod_of_plain (by rw [hm]; decide) (by rw [hm]; decide)]

theorem reply_response_of_quota (h : ofSettings s = (.ok server, events)) {d : Declaration}
    (hd : s.handler.declarations.lookup quotaExceeded = some d) {m : Moment}
    {ctx : RequestContext} (ha : m.Arrives server ctx) (hq : AsksForQuota m.request) :
    (m.reply server).response =
      if beginsWith m.request.uri.path s.handler.scope then
        .json d.status (ErrorBody.json {
          code := d.code
          status := d.status.toUInt16
          message := Endpoint.quotaMessage
          requestId := ctx.requestId
          details := [] })
      else .text d.status Endpoint.quotaMessage := by
  obtain ⟨hr, hfaults, _⟩ := ofSettings_eq_ok h
  obtain ⟨_, hpath⟩ := Inspection.read_accepted ha.inspected
  have hf := Settings.Handler.instantiate_of_declared hr hd Endpoint.quotaMessage
  rw [Moment.reply_of_arrives ha, sentTo_of_quota hq, innermost_of_quota hq hf,
    FaultHandler.settle_response ctx rfl,
    FaultHandler.presented_declared (by rw [hfaults]; rfl), hfaults, ← hpath]
  rfl

end Accepted

/-- The errors that a reply logs. -/
def errorsOf (reply : Reply Condition) : List Log.Event :=
  reply.events.filter fun event => event.level = .error

/-- A request for the headers of what fails, and one that has used up its quota. -/
def crashing : Request where
  method := "HEAD"
  uri := ⟨"/crash", none⟩
  headers := []
  body := []

def exceeding : Request where
  method := "POST"
  uri := ⟨"/api/v1/quota", none⟩
  headers := []
  body := []

end Server

end FaultGate
