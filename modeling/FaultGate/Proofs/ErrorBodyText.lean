import FaultGate.Http.Message
import FaultGate.Proofs.Json.Reading
import FaultGate.Proofs.Json.Writing

/-!
# The error body loses nothing on its way

An error body leaves the program as a text that was put together of pieces, with
one member left out when there is nothing to say in it. What the program means
by that text is said here as a value and not as a text, and so is how the far
side gets the body back, by the names of the members.

The text is a document of that value and of no other one. So whoever reads it
arrives at the value, and from there at the body, and two bodies can only share
a text by being the same body. That the details are left out when there are none
does not blur this: an empty list of details is never written.
-/

namespace FaultGate

open FaultGate.Json (Document Value Written)

/-! ## The body as a value -/

def ErrorDetail.value (d : ErrorDetail) : Value :=
  .object [("field", .string d.field), ("reason", .string d.reason),
    ("message", .string d.message)]

/-- The members of the error object, each with what it holds. -/
def ErrorBody.fields (body : ErrorBody) : List (String × Value) :=
  [("code", .string body.code.text), ("status", .number (.integer body.status.toNat)),
    ("message", .string body.message), ("request_id", .string body.requestId)] ++
  if body.details = [] then []
  else [("details", .array (body.details.map ErrorDetail.value))]

def ErrorBody.value (body : ErrorBody) : Value :=
  .object [("error", .object body.fields)]

theorem ErrorDetail.written (d : ErrorDetail) :
    Written (.value d.value) (ErrorBody.detailJson d).toList := by
  refine Json.written_object (.cons ?_ (.cons ?_ (.cons ?_ .nil)))
  · exact ⟨rfl, Json.written_string d.field⟩
  · exact ⟨rfl, Json.written_string d.reason⟩
  · exact ⟨rfl, Json.written_string d.message⟩

theorem ErrorBody.written_status (body : ErrorBody) :
    Written (.value (.number (.integer body.status.toNat)))
      (Json.nat body.status.toNat).toList := by
  have hlt := body.status.toNat_lt
  have hbound : Nat.pow 2 64 = 18446744073709551616 := rfl
  exact @Json.written_integer (body.status.toNat : Int) (by omega) (by omega)

theorem ErrorBody.written_details (details : List ErrorDetail) :
    Written (.value (.array (details.map ErrorDetail.value)))
      (Json.array (details.map detailJson)).toList := by
  refine Json.written_array ?_
  induction details with
  | nil => exact .nil
  | cons d details ih => exact .cons d.written ih

theorem ErrorBody.written_fields (body : ErrorBody) :
    Written (.value (.object body.fields)) (Json.object body.members).toList := by
  refine Json.written_object (.cons ?_ (.cons ?_ (.cons ?_ (.cons ?_ ?_))))
  · exact ⟨rfl, Json.written_string body.code.text⟩
  · exact ⟨rfl, body.written_status⟩
  · exact ⟨rfl, Json.written_string body.message⟩
  · exact ⟨rfl, Json.written_string body.requestId⟩
  · cases hdetails : body.details with
    | nil => exact .nil
    | cons d details =>
        exact .cons ⟨rfl, ErrorBody.written_details (d :: details)⟩ .nil

theorem ErrorBody.document (body : ErrorBody) : Document body.value body.json :=
  (Json.written_object (.cons ⟨rfl, body.written_fields⟩ .nil)).document

/-- Three brackets stand around the innermost texts, and one more around each
detail. -/
theorem ErrorBody.within (body : ErrorBody) :
    body.value.within Json.maxDepth = true := by
  have hdetail : ∀ d : ErrorDetail, d.value.within 124 = true := fun _ => rfl
  cases hdetails : body.details with
  | nil => simp [value, fields, Json.maxDepth, Value.within, hdetails]
  | cons d details =>
      simp [value, fields, Json.maxDepth, Value.within, hdetails, hdetail]

/-! ## The body back from the value -/

def Json.Value.text? : Value → Option String
  | .string s => some s
  | _ => none

/-- The number of sixteen bits that the value is, if it is one. -/
def Json.Value.short? : Value → Option UInt16
  | .number (.integer n) =>
    if 0 ≤ n ∧ n < UInt16.size then some (UInt16.ofNat n.toNat) else none
  | _ => none

def ErrorDetail.ofValue? (v : Value) : Option ErrorDetail := do
  let field ← (v.member? "field").bind Value.text?
  let reason ← (v.member? "reason").bind Value.text?
  let message ← (v.member? "message").bind Value.text?
  return ⟨field, reason, message⟩

/-- Where there are no details the body has none. -/
def ErrorBody.ofDetails? : Option Value → Option (List ErrorDetail)
  | none => some []
  | some (.array items) => items.mapM ErrorDetail.ofValue?
  | some _ => none

def ErrorBody.ofValue? (v : Value) : Option ErrorBody := do
  let error ← v.member? "error"
  let code ← (error.member? "code").bind Value.text?
  let status ← (error.member? "status").bind Value.short?
  let message ← (error.member? "message").bind Value.text?
  let requestId ← (error.member? "request_id").bind Value.text?
  let details ← ErrorBody.ofDetails? (error.member? "details")
  return ⟨⟨code⟩, status, message, requestId, details⟩

theorem ErrorDetail.ofValue?_value (d : ErrorDetail) : ofValue? d.value = some d :=
  rfl

theorem Json.Value.short?_status (n : UInt16) :
    Value.short? (.number (.integer n.toNat)) = some n := by
  have hlt := n.toNat_lt
  have hrange : (0 : Int) ≤ n.toNat ∧ (n.toNat : Int) < UInt16.size := by
    rw [UInt16.size]
    omega
  rw [Value.short?, if_pos hrange, Int.toNat_natCast, UInt16.ofNat_toNat]

theorem ErrorBody.ofDetails?_details (details : List ErrorDetail) :
    ofDetails? (some (.array (details.map ErrorDetail.value))) = some details := by
  rw [ofDetails?]
  induction details with
  | nil => rfl
  | cons d details ih =>
      rw [List.map_cons, List.mapM_cons, d.ofValue?_value, ih]
      rfl

theorem ErrorBody.member?_error (body : ErrorBody) :
    body.value.member? "error" = some (.object body.fields) := by
  simp [value, Value.member?]

/-- What stands in front of the details is found whether there are any or not. -/
theorem ErrorBody.member?_fields (body : ErrorBody) :
    (Value.object body.fields).member? "code" = some (.string body.code.text) ∧
      (Value.object body.fields).member? "status" =
        some (.number (.integer body.status.toNat)) ∧
      (Value.object body.fields).member? "message" = some (.string body.message) ∧
      (Value.object body.fields).member? "request_id" = some (.string body.requestId) := by
  cases hdetails : body.details with
  | nil => simp [fields, hdetails, Value.member?, List.lookup_cons]
  | cons d details => simp [fields, hdetails, Value.member?, List.lookup_cons]

theorem ErrorBody.member?_details (body : ErrorBody) :
    ofDetails? ((Value.object body.fields).member? "details") = some body.details := by
  cases hdetails : body.details with
  | nil => simp [fields, hdetails, Value.member?, List.lookup_cons, ofDetails?]
  | cons d details =>
      rw [← hdetails, ← ofDetails?_details body.details]
      simp [fields, hdetails, Value.member?]

theorem ErrorBody.ofValue?_value (body : ErrorBody) : ofValue? body.value = some body := by
  obtain ⟨hcode, hstatus, hmessage, hid⟩ := body.member?_fields
  have hdetails := body.member?_details
  have hshort : ((Value.object body.fields).member? "status").bind Value.short? =
      some body.status := by
    rw [hstatus, Option.bind_some, Value.short?_status]
  rw [ofValue?, body.member?_error]
  simp only [Option.bind_eq_bind, Option.bind_some, hcode, hshort, hmessage, hid,
    Value.text?, hdetails, Option.pure_def]

/-- The text of an error body is a document of the value that holds its parts,
and of nothing else. The bytes that are sent are read for that value, and the
body is read back from it; so no other body has this text. -/
theorem ErrorBody.json_loses_nothing (body : ErrorBody) :
    (∀ v, Document v body.json ↔ v = body.value) ∧
      Value.ofBytes? (Http.Response.ofErrorBody body).body = some body.value ∧
      ofValue? body.value = some body ∧
      ∀ other : ErrorBody, other.json = body.json → other = body := by
  have hdocument := body.document
  have hvalue := body.ofValue?_value
  refine ⟨?_, ?_, hvalue, ?_⟩
  · intro v
    constructor
    · intro h
      exact Json.document_unique h hdocument
    · intro h
      rw [h]
      exact hdocument
  · simp only [Http.Response.ofErrorBody, Http.Response.json]
    exact Json.ofBytes?_of_document hdocument body.within
  · intro other h
    have hother := other.document
    rw [h] at hother
    have hback := other.ofValue?_value
    rw [Json.document_unique hother hdocument, body.ofValue?_value] at hback
    injection hback with hback
    exact hback.symm

/-! ## What a reader of the response finds -/

/-- The body is JSON, and its error object has this member. -/
def Http.Response.Tells (response : Response) (name : String) (told : Value) : Prop :=
  ∃ v error, Value.ofBytes? response.body = some v ∧ v.member? "error" = some error ∧
    error.member? name = some told

theorem Http.Response.ofErrorBody_tells_iff {body : ErrorBody} {name : String} {told : Value} :
    (ofErrorBody body).Tells name told ↔ (Value.object body.fields).member? name = some told := by
  have hread : Value.ofBytes? (ofErrorBody body).body = some body.value := by
    simp only [ofErrorBody, json]
    exact Json.ofBytes?_of_document body.document body.within
  constructor
  · rintro ⟨v, error, hv, he, htold⟩
    have hv := Option.some.inj (hread.symm.trans hv)
    subst hv
    have he := Option.some.inj (body.member?_error.symm.trans he)
    subst he
    exact htold
  · intro htold
    exact ⟨_, _, hread, body.member?_error, htold⟩

end FaultGate
