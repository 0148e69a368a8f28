import FaultGate.Proofs.ErrorBodyText
import FaultGate.Proofs.HandledOnce
import FaultGate.Proofs.TestMode

/-!
# One id for the log and for the client

Whoever reports a failure has the id in the body of the answer, and whoever looks into
it has the log. The two have to be about the same request. The id is chosen before the
service runs, and it passes through everything that is done with a fault afterwards: the
report, another fault that stands in, the body of that fault, and the event that none
could be found.

It is the id that the client sent, if the first header of the name holds a text and the
text is not empty. Otherwise it is the one that was made for this request. A header that
cannot be read is not passed over for a later one, as the first value counts and no other
is looked at.

A domain fault of the application's own may write what it likes into its body. The law
is therefore about declared faults, and the id in the body is what a reader of the bytes
finds there.
-/

namespace FaultGate

open FaultGate.Http (Request Response Service)
open FaultGate.Inspection (HeaderText)

/-- The id of a request: the first value of its header, or else the fresh one. -/
inductive Inspection.IdOf (freshId : String) (r : Request) : String → Prop where
  | carried {text : String} (h : HeaderText r "x-request-id" text) (hne : text ≠ "") :
    IdOf freshId r text
  | fresh (h : ∀ text, HeaderText r "x-request-id" text → text = "") : IdOf freshId r freshId

/-- The body is JSON, and its error object tells this id. -/
def Http.Response.TellsId (response : Response) (id : String) : Prop :=
  ∃ v error, Json.Value.ofBytes? response.body = some v ∧ v.member? "error" = some error ∧
    error.member? "request_id" = some (.string id)

/-- The event has a field with this id. -/
def Log.Event.TellsId (event : Log.Event) (id : String) : Prop :=
  event.fields.lookup "request_id" = some (.text id)

namespace Inspection

variable {freshId : String} {r : Request}

theorem carriedId?_eq_some_iff {id : String} :
    carriedId? r = some id ↔ HeaderText r "x-request-id" id ∧ id ≠ "" := by
  rw [carriedId?, Option.filter_eq_some_iff, headerText?_eq_some_iff, Bool.not_eq_true',
    ← Bool.not_eq_true, String.isEmpty_iff]
  rfl

theorem carriedId?_eq_none_iff :
    carriedId? r = none ↔ ∀ text, HeaderText r "x-request-id" text → text = "" := by
  rw [Option.eq_none_iff_forall_ne_some]
  refine forall_congr' fun text => ?_
  rw [Ne, carriedId?_eq_some_iff, not_and, not_not]

theorem idOf_iff {id : String} : IdOf freshId r id ↔ id = (carriedId? r).getD freshId := by
  constructor
  · intro h
    cases h with
    | carried htext hne =>
        rw [carriedId?_eq_some_iff.mpr ⟨htext, hne⟩]
        rfl
    | fresh hnone =>
        rw [carriedId?_eq_none_iff.mpr hnone]
        rfl
  · intro h
    rw [h]
    cases hc : carriedId? r with
    | none => exact .fresh (carriedId?_eq_none_iff.mp hc)
    | some own =>
        obtain ⟨htext, hne⟩ := carriedId?_eq_some_iff.mp hc
        exact .carried htext hne

theorem read_requestId {ctx : RequestContext} {passed : Request}
    (h : read freshId r = .accepted ctx passed) :
    ctx.requestId = (carriedId? r).getD freshId := by
  rw [read_eq h]
  rfl

end Inspection

/-! ## Where the id is told -/

theorem Reporter.report_tellsId (r : Reporter) (ctx : RequestContext) (fault : Fault) :
    (r.report ctx fault).TellsId ctx.requestId := by
  rcases r.report_cases ctx fault with h | ⟨e, h⟩
  · rw [h]
    rfl
  · rw [h]
    rfl

theorem FaultHandler.resolving_tellsId (h : FaultHandler) (ctx : RequestContext)
    (fault : Fault) : ∀ event ∈ h.resolving ctx fault, event.TellsId ctx.requestId := by
  intro event he
  rw [resolving] at he
  cases ha : h.answer ctx fault with
  | ok response =>
      rw [ha] at he
      cases he
  | error e =>
      rw [ha] at he
      rw [List.mem_singleton.mp he]
      rfl

theorem Http.Response.ofErrorBody_tellsId (body : ErrorBody) :
    (ofErrorBody body).TellsId body.requestId :=
  ofErrorBody_tells_iff.mpr body.member?_fields.2.2.2

namespace FaultHandler

variable {σ : Type}

/-- Every request has exactly one id, which is the text of its first header or else the
fresh one, and it is the id of every context that is made of the request. Whatever fault
the service returns, this id is told by the report and by the event that the fault could
not be resolved; and where the answer is the body of a declared fault, the one that was
returned or one that stands in for it, whoever reads that body finds the same id. -/
theorem request_has_one_id (h : FaultHandler) (inner : Service σ) (freshId : String)
    (request : Request) (state : σ) :
    ∃ id, (∀ other, Inspection.IdOf freshId request other ↔ other = id) ∧
      (Inspection.context freshId request).requestId = id ∧
      ∀ ctx passed, Inspection.read freshId request = .accepted ctx passed →
        ctx.requestId = id ∧
        ∀ fault, (inner request state).response.parked = some fault →
          let reply := h.layer inner freshId request state
          (reply.events = (inner request state).events ++
            h.reporter.report ctx fault :: h.resolving ctx fault ∧
          ∀ event ∈ h.reporter.report ctx fault :: h.resolving ctx fault, event.TellsId id) ∧
          ∀ f : ApiFault, ¬ h.resolver.LeftToHost ctx h.posture fault →
            h.resolver.speaker fault = .ok f.toDomain →
            reply.response = .ofErrorBody (f.body ctx) ∧ reply.response.TellsId id := by
  refine ⟨_, fun other => Inspection.idOf_iff, rfl, fun ctx passed hread => ?_⟩
  have hid := Inspection.read_requestId hread
  rw [(Inspection.read_accepted hread).1] at hread
  refine ⟨hid, fun fault hparked => ?_⟩
  rw [layer_accepted hread, ← hid]
  refine ⟨⟨settle_events_of_parked hparked, ?_⟩, fun f hl hf => ?_⟩
  · exact List.forall_mem_cons.mpr
      ⟨h.reporter.report_tellsId ctx fault, h.resolving_tellsId ctx fault⟩
  · have hresponse : (h.settle ctx (inner request state)).response =
        .ofErrorBody (f.body ctx) := by
      rw [settle_of_speaker hparked hl hf]
      rfl
    rw [hresponse]
    exact ⟨rfl, Response.ofErrorBody_tellsId (f.body ctx)⟩

/-- The first value of its header is no text. The second one would be. -/
def illegible : Request where
  method := "GET"
  uri := ⟨"/api/orders", none⟩
  headers := [("x-request-id", [0xff]), ("x-request-id", Text.utf8 "r-2")]
  body := []

def failing : Service Unit := fun _ _ => .quiet (.park (.unknown ⟨"disk full", []⟩)) ()

/-- The second value does not become the id, and the fault that stands in tells the fresh
one, as the report does. -/
theorem request_has_one_id_illegible :
    let reply :=
      (FaultHandler.plain ⟨.defaults, "/api"⟩ ⟨true⟩).layer failing "fresh" illegible ()
    (∀ other, Inspection.IdOf "fresh" illegible other ↔ other = "fresh") ∧
      (∀ event ∈ reply.events, event.TellsId "fresh") ∧ reply.response.TellsId "fresh" := by
  intro reply
  have hread : Inspection.read "fresh" illegible =
      .accepted ⟨"/api/orders", false, "fresh"⟩ illegible := by rfl
  obtain ⟨_, hone, _, hids⟩ :=
    request_has_one_id (.plain ⟨.defaults, "/api"⟩ ⟨true⟩) failing "fresh" illegible ()
  obtain ⟨rfl, hfaults⟩ := hids _ _ hread
  obtain ⟨⟨hevents, htold⟩, hbody⟩ := hfaults _ rfl
  refine ⟨hone, ?_, ?_⟩
  · intro event he
    rw [hevents] at he
    exact htold event he
  · refine (hbody (.serverInternalError "Something went wrong.") ?_ rfl).2
    rintro (hs | ⟨_, hdebug, _⟩)
    · cases hs
    · cases hdebug

end FaultHandler

end FaultGate
