import FaultGate.Proofs.Declarations
import FaultGate.Proofs.SwitchRequest
import FaultGate.Server.Router

/-!
# Who moves the maintenance toggle

A server has one piece of state that requests can change, and one endpoint that
changes it. What makes this worth a proof is all that stands around the
endpoint: a request can be stopped by the inspection of its body, by the
maintenance layer, by the routes, by the method, and by the endpoint itself.
The first half of this file goes through these one by one, and says for each
way out what is left of the condition: everything, unless a request to switch
was accepted.

The second half is about runs. What one step does to the toggle is carried
through a run by induction, and what is left in the end is the value that the
last accepted request carried. File steps change the files and nothing else,
and nobody else changes them, so the two halves of the condition are each told
by their own half of the run.
-/

namespace FaultGate

namespace Http.Response

/-- Nothing is changed about a response that lists no methods, unless the
request wants no body. -/
theorem forMethod_of_plain {method : String} (hc : method ≠ "CONNECT")
    (hh : method ≠ "HEAD") (r : Response) (keepBody : Bool) :
    r.forMethod method none keepBody = r := by
  rw [forMethod, decide_eq_false hc, decide_eq_false hh]
  rfl

end Http.Response

namespace MaintenanceSwitch

theorem layer_of_not_excepted {s : MaintenanceSwitch} {request : Http.Request}
    {c : Condition} (hon : s.isOn c = true)
    (h : s.excepts request.uri.path = false) (inner : Http.Service Condition) :
    s.layer inner request c =
      ⟨.park (.maintenance s.signal), [rejectionEvent request.uri.path], c⟩ := by
  rw [layer, hon, h]
  rfl

theorem layer_of_excepted {s : MaintenanceSwitch} {request : Http.Request}
    (h : s.excepts request.uri.path = true) (inner : Http.Service Condition)
    (c : Condition) : s.layer inner request c = inner request c := by
  rw [layer, h, Bool.not_true, Bool.and_false, if_neg (by decide)]

theorem layer_of_off {s : MaintenanceSwitch} {c : Condition}
    (h : s.isOn c = false) (inner : Http.Service Condition)
    (request : Http.Request) : s.layer inner request c = inner request c := by
  rw [layer, h, Bool.false_and, if_neg (by decide)]

end MaintenanceSwitch

namespace Server

open FaultGate.Http (Reply Request Response)

variable {server : Server} {freshId : String} {request : Request}

/-! ## The one endpoint that switches -/

/-- Is the request sent to where maintenance is switched? -/
def Posted (request : Request) : Prop :=
  request.method = "POST" ∧ request.uri.path = maintenancePath

instance (request : Request) : Decidable (Posted request) :=
  inferInstanceAs (Decidable (_ ∧ _))

/-- What leads to an endpoint: a route with the path of the request that has the
endpoint for its method. -/
theorem leads_of_endpoint? {route : Route} {endpoint : Endpoint}
    (hr : route? request.uri.path = some route)
    (he : route.endpoint? request.method = some endpoint) :
    route ∈ routes ∧ route.path = request.uri.path ∧
      (route.get = some endpoint ∧ (request.method = "GET" ∨ request.method = "HEAD") ∨
        route.post = some endpoint ∧ request.method = "POST") := by
  have hpath := List.find?_some hr
  refine ⟨List.mem_of_find?_eq_some hr, of_decide_eq_true hpath, ?_⟩
  rw [Route.endpoint?] at he
  split at he
  · rename_i hmethod
    rw [Bool.or_eq_true, decide_eq_true_eq, decide_eq_true_eq] at hmethod
    exact Or.inl ⟨he, hmethod⟩
  · split at he
    · rename_i hmethod
      exact Or.inr ⟨he, hmethod⟩
    · cases he

/-- No other route and no other method leads to the endpoint that switches. -/
theorem posted_of_endpoint? {route : Route}
    (hr : route? request.uri.path = some route)
    (he : route.endpoint? request.method = some .switchMaintenance) :
    Posted request := by
  obtain ⟨hmem, hpath, hleads⟩ := leads_of_endpoint? hr he
  simp only [routes, List.mem_cons, List.not_mem_nil, or_false] at hmem
  obtain rfl | rfl | rfl | rfl | rfl | rfl := hmem <;> simp at hleads
  exact ⟨hleads, hpath.symm⟩

theorem innermost_of_posted (h : Posted request) (c : Condition) :
    innermost server request c = Endpoint.switchMaintenance.answer server request c := by
  rw [innermost, h.2, show route? maintenancePath = some ⟨maintenancePath,
    some .maintenanceStatus, some .switchMaintenance⟩ by decide]
  simp only [h.1]
  rfl

theorem innermost_of_asked (hm : request.method = "GET")
    (hp : request.uri.path = maintenancePath) (c : Condition) :
    innermost server request c =
      .quiet (Endpoint.statusResponse (server.switch.isOn c)) c := by
  rw [innermost, hp, show route? maintenancePath = some ⟨maintenancePath,
    some .maintenanceStatus, some .switchMaintenance⟩ by decide]
  simp only [hm]
  rfl

theorem answer_state_of_other {endpoint : Endpoint}
    (h : endpoint ≠ .switchMaintenance) (c : Condition) :
    (endpoint.answer server request c).state = c := by
  cases endpoint with
  | switchMaintenance => exact absurd rfl h
  | quota =>
      simp only [Endpoint.answer]
      split <;> rfl
  | health | maintenanceStatus | ping | crash => rfl

theorem innermost_state_of_not_posted (h : ¬Posted request) (c : Condition) :
    (innermost server request c).state = c := by
  rw [innermost]
  split
  · rfl
  · rename_i route hr
    split
    · rfl
    · rename_i endpoint he
      refine answer_state_of_other ?_ c
      rintro rfl
      exact h (posted_of_endpoint? hr he)

/-! ## What the server sends and keeps -/

theorem layered_rejected {event : Log.Event}
    (hr : Inspection.read freshId request = .rejected event) (c : Condition) :
    layered server freshId request c = ⟨Inspection.rejection, [event], c⟩ := by
  rw [layered, FaultHandler.layer_rejected hr]

theorem layered_of_excepted {ctx : RequestContext}
    (hr : Inspection.read freshId request = .accepted ctx request)
    (h : server.switch.excepts request.uri.path = true) (c : Condition) :
    layered server freshId request c =
      server.faults.settle ctx (innermost server request c) := by
  rw [layered, FaultHandler.layer_accepted hr, MaintenanceSwitch.layer_of_excepted h]

theorem serve_state (server : Server) (freshId : String) (request : Request)
    (c : Condition) :
    (serve server freshId request c).state =
      (layered server freshId request c).state := rfl

/-- Whatever does not ask to switch leaves the condition as it was. -/
theorem serve_state_of_not_posted (h : ¬Posted request) (c : Condition) :
    (serve server freshId request c).state = c := by
  rw [serve_state]
  rcases Inspection.read_cases freshId request with ⟨event, hr⟩ | ⟨ctx, hr, _⟩
  · rw [layered_rejected hr]
  · rw [layered, FaultHandler.layer_accepted hr, FaultHandler.settle_state]
    cases hon : server.switch.isOn c with
    | false =>
        rw [MaintenanceSwitch.layer_of_off hon]
        exact innermost_state_of_not_posted h c
    | true =>
        cases he : server.switch.excepts request.uri.path with
        | false => rw [MaintenanceSwitch.layer_of_not_excepted hon he]
        | true =>
            rw [MaintenanceSwitch.layer_of_excepted he]
            exact innermost_state_of_not_posted h c

/-- On the path of maintenance nothing is done to a response afterwards, for
the route has both methods that a plain request can ask with. -/
theorem serve_of_maintenancePath (hp : request.uri.path = maintenancePath)
    (hm : request.method = "GET" ∨ request.method = "POST") (c : Condition) :
    serve server freshId request c = layered server freshId request c := by
  have hlist : listedMethods? request = none := by
    rw [listedMethods?, hp]
    obtain hm | hm := hm <;> rw [hm] <;> decide
  have hconnect : request.method ≠ "CONNECT" := by
    obtain hm | hm := hm <;> rw [hm] <;> decide
  have hhead : request.method ≠ "HEAD" := by
    obtain hm | hm := hm <;> rw [hm] <;> decide
  rw [serve, hlist]
  simp only [Response.forMethod_of_plain hconnect hhead]

/-- A request to switch, in full: what the inspection and the endpoint say
about it decides the answer and the condition. The maintenance layer has no
say, because the path is excepted. -/
theorem serve_of_posted (h : Posted request)
    (hexcept : server.switch.excepts maintenancePath = true) (c : Condition) :
    serve server freshId request c =
      match Inspection.read freshId request with
      | .rejected event => ⟨Inspection.rejection, [event], c⟩
      | .accepted _ _ => Endpoint.switchMaintenance.answer server request c := by
  rw [serve_of_maintenancePath h.2 (Or.inr h.1)]
  rcases Inspection.read_cases freshId request with ⟨event, hr⟩ | ⟨ctx, hr, _⟩
  · rw [layered_rejected hr, hr]
  · rw [layered_of_excepted hr (by rw [h.2, hexcept]), innermost_of_posted h, hr]
    refine FaultHandler.settle_of_none ctx ?_
    simp only [Endpoint.answer]
    split
    · rename_i refusal _
      cases refusal <;> rfl
    · rfl

theorem serve_of_asked (hm : request.method = "GET")
    (hp : request.uri.path = maintenancePath)
    (hexcept : server.switch.excepts maintenancePath = true) (c : Condition) :
    serve server freshId request c =
      match Inspection.read freshId request with
      | .rejected event => ⟨Inspection.rejection, [event], c⟩
      | .accepted _ _ => .quiet (Endpoint.statusResponse (server.switch.isOn c)) c := by
  rw [serve_of_maintenancePath hp (Or.inl hm)]
  rcases Inspection.read_cases freshId request with ⟨event, hr⟩ | ⟨ctx, hr, _⟩
  · rw [layered_rejected hr, hr]
  · rw [layered_of_excepted hr (by rw [hp, hexcept]), innermost_of_asked hm hp, hr]
    exact FaultHandler.settle_of_none ctx rfl

/-! ## Accepted requests -/

/-- Was a request to switch answered with success? -/
def accepted (answered : Request × Reply Condition) : Bool :=
  Posted answered.1 && answered.2.response.status = .ok

/-- A request to switch is accepted when the inspection lets it through and the
endpoint can tell what to switch to; the condition is then switched to that. -/
theorem serve_of_accepted
    (hexcept : server.switch.excepts maintenancePath = true) (c : Condition)
    (h : accepted (request, serve server freshId request c) = true) :
    Posted request ∧
      (∃ ctx, Inspection.read freshId request = .accepted ctx request) ∧
      ∃ b, Toggle.ofRequest request = .ok b ∧
        serve server freshId request c =
          ⟨Endpoint.statusResponse (server.switch.isOn (c.switched b)),
            [Endpoint.switchedEvent b], c.switched b⟩ := by
  rw [accepted, Bool.and_eq_true, decide_eq_true_eq, decide_eq_true_eq] at h
  obtain ⟨hposted, hok⟩ := h
  have hserve : serve server freshId request c = _ := serve_of_posted hposted hexcept c
  rcases Inspection.read_cases freshId request with ⟨event, hr⟩ | ⟨ctx, hr, _⟩
  · rw [hr] at hserve
    rw [hserve] at hok
    cases hok
  · rw [hr] at hserve
    simp only [Endpoint.answer] at hserve
    refine ⟨hposted, ⟨ctx, hr⟩, ?_⟩
    cases ht : Toggle.ofRequest request with
    | error refusal =>
        rw [ht] at hserve
        rw [hserve] at hok
        cases refusal <;> cases hok
    | ok b =>
        rw [ht] at hserve
        exact ⟨b, rfl, hserve⟩

/-- The other way round: nothing else is asked of a request. -/
theorem accepted_of_switching
    (hexcept : server.switch.excepts maintenancePath = true) (c : Condition)
    (hposted : Posted request) {ctx : RequestContext}
    (hr : Inspection.read freshId request = .accepted ctx request) {b : Bool}
    (ht : Toggle.ofRequest request = .ok b) :
    accepted (request, serve server freshId request c) = true := by
  rw [accepted, decide_eq_true hposted, serve_of_posted hposted hexcept, hr]
  simp only [Endpoint.answer, ht]
  rfl

/-- A request that is not accepted leaves the condition as it was. -/
theorem serve_state_of_not_accepted
    (hexcept : server.switch.excepts maintenancePath = true) (c : Condition)
    (h : accepted (request, serve server freshId request c) = false) :
    (serve server freshId request c).state = c := by
  by_cases hposted : Posted request
  · rcases Inspection.read_cases freshId request with ⟨event, hr⟩ | ⟨ctx, hr, _⟩
    · rw [serve_of_posted hposted hexcept, hr]
    · cases ht : Toggle.ofRequest request with
      | ok b =>
          rw [accepted_of_switching hexcept c hposted hr ht] at h
          cases h
      | error refusal =>
          rw [serve_of_posted hposted hexcept, hr]
          simp only [Endpoint.answer, ht]
          rfl
  · exact serve_state_of_not_posted hposted c

/-! ## Runs -/

/-- What a request asks to switch to, as far as it asks for anything. -/
def carries (request : Request) : Bool :=
  match Toggle.ofRequest request with
  | .ok b => b
  | .error _ => false

theorem carries_eq_true :
    carries request = true ↔ Toggle.ofRequest request = .ok true := by
  rw [carries]
  cases Toggle.ofRequest request with
  | error refusal => exact ⟨fun h => (by cases h), fun h => (by cases h)⟩
  | ok b => simp only [Except.ok.injEq]

/-- The accepted requests of a run, with their answers. -/
def acceptedOf (answers : List (Request × Reply Condition)) :
    List (Request × Reply Condition) :=
  answers.filter accepted

/-- The files after a run, told by its file steps alone. -/
def filesAfter (files : FileTree) (steps : List Step) : FileTree :=
  steps.foldl
    (fun files s =>
      match s with
      | .request _ _ => files
      | .files change => change files)
    files

theorem conditionAfter_cons (server : Server) (c : Condition) (s : Step)
    (steps : List Step) :
    conditionAfter server c (s :: steps) =
      conditionAfter server (step server c s).1 steps := rfl

theorem filesAfter_cons (files : FileTree) (s : Step) (steps : List Step) :
    filesAfter files (s :: steps) =
      filesAfter (match s with
        | .request _ _ => files
        | .files change => change files) steps := rfl

theorem step_files (hexcept : server.switch.excepts maintenancePath = true)
    (c : Condition) (s : Step) :
    (step server c s).1.files =
      match s with
      | .request _ _ => c.files
      | .files change => change c.files := by
  cases s with
  | files change => rfl
  | request freshId request =>
      rw [step]
      simp only []
      cases ha : accepted (request, serve server freshId request c) with
      | false => rw [serve_state_of_not_accepted hexcept c ha]
      | true =>
          obtain ⟨_, _, b, _, hserve⟩ := serve_of_accepted hexcept c ha
          rw [hserve]
          rfl

/-- One step moves the toggle to what the accepted request of the step carries,
if there is one. -/
theorem step_toggle (hexcept : server.switch.excepts maintenancePath = true)
    (c : Condition) (s : Step) :
    (step server c s).1.toggle =
      ((acceptedOf (step server c s).2.toList).getLast?.map
        fun a => carries a.1).getD c.toggle := by
  cases s with
  | files change => rfl
  | request freshId request =>
      simp only [step, acceptedOf, Option.toList_some]
      cases ha : accepted (request, serve server freshId request c) with
      | false =>
          rw [List.filter_cons_of_neg (by rw [ha]; decide),
            serve_state_of_not_accepted hexcept c ha]
          rfl
      | true =>
          obtain ⟨_, _, b, hb, hserve⟩ := serve_of_accepted hexcept c ha
          rw [List.filter_cons_of_pos ha, hserve]
          simp only [List.filter_nil, List.getLast?_singleton, Option.map_some,
            Option.getD_some, carries, hb]
          rfl

/-- The toggle after a run is what the last accepted request carried, and what
it was before if there was none. -/
theorem toggle_after_run (hexcept : server.switch.excepts maintenancePath = true)
    (c : Condition) (steps : List Step) :
    (conditionAfter server c steps).toggle =
      ((acceptedOf (run server c steps)).getLast?.map
        fun a => carries a.1).getD c.toggle := by
  induction steps generalizing c with
  | nil => rfl
  | cons s steps ih =>
      rw [conditionAfter_cons, ih, step_toggle hexcept c s, run]
      simp only [acceptedOf, List.filter_append, List.getLast?_append]
      cases (List.filter accepted (run server (step server c s).1 steps)).getLast? with
      | none => rfl
      | some last => rfl

theorem files_after_run (hexcept : server.switch.excepts maintenancePath = true)
    (c : Condition) (steps : List Step) :
    (conditionAfter server c steps).files = filesAfter c.files steps := by
  induction steps generalizing c with
  | nil => rfl
  | cons s steps ih =>
      rw [conditionAfter_cons, ih, step_files hexcept, filesAfter_cons]

/-! ## The law of the switch -/

theorem switchOf_excepts_maintenancePath (m : Settings.Maintenance) :
    (switchOf m).excepts maintenancePath = true := by
  show [healthPath, maintenancePath].any (beginsWith maintenancePath) = true
  decide

theorem announcesJson_of_plain
    (h : request.headerText? "content-type" = some "application/json") :
    Toggle.announcesJson request = true := by
  rw [Toggle.announcesJson, h]
  decide

/-- A small document that names the wanted member and nothing else gets
through everything that stands around the endpoint, whatever the condition. -/
theorem accepted_of_document
    (hexcept : server.switch.excepts maintenancePath = true) (c : Condition)
    (freshId : String) (hposted : Posted request)
    (hmedia : request.headerText? "content-type" = some "application/json")
    (hlen : request.body.length ≤ Inspection.maxBody) {b : Bool}
    (hbody : Json.Value.ofBytes? request.body =
      some (.object [(Toggle.memberName, .bool b)])) :
    accepted (request, serve server freshId request c) = true ∧
      (serve server freshId request c).state = c.switched b := by
  obtain ⟨ctx, hr⟩ := Inspection.read_of_length_le freshId hlen
  have hwide : request.body.length ≤ Toggle.maxBody :=
    hlen.trans (by decide)
  have ht : Toggle.ofRequest request = .ok b :=
    (Toggle.ofRequest_eq_ok b hbody).mpr
      ⟨announcesJson_of_plain hmedia, hwide, rfl⟩
  have haccepted := accepted_of_switching hexcept c hposted hr ht
  obtain ⟨_, _, b', ht', hserve⟩ := serve_of_accepted hexcept c haccepted
  rw [ht] at ht'
  injection ht' with ht'
  exact ⟨haccepted, by rw [hserve, ht']⟩

/-- A request that switches maintenance on. -/
def switchingOn : Request where
  method := "POST"
  uri := ⟨maintenancePath, none⟩
  headers := [("content-type", Text.utf8 "application/json")]
  body := Text.utf8 "\x7b\"enabled\":true\x7d"

theorem switchingOn_pieces :
    Text.pieces switchingOn.body = "\x7b\"enabled\":true\x7d".toList.map some := by
  decide +kernel

theorem switchingOn_document :
    Json.Value.ofBytes? switchingOn.body = some (.object [("enabled", .bool true)]) := by
  rw [Json.Value.ofBytes?, switchingOn_pieces]
  cbv

end Server

end FaultGate
