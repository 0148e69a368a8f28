import FaultGate.Proofs.BodyInspection
import FaultGate.Proofs.FormText
import FaultGate.Proofs.Json.Recognition

/-!
# When a request is in test mode

Test mode can be asked for in three places, and the three are combined in two
ways. The body and the query hold the same input, and the first of them that
holds it counts, whether it says yes or no. The header is asked beside them and
can only add.

The places are described as what stands in them, by the grammars of form text
and of JSON, with the entry that counts where a name is used more than once: the
first one in a header or a form, the last one in a query or an object. A place
that cannot be read holds nothing. It is never taken for a no, and `Silent` lists
the ways in which a body comes to hold nothing.
-/

namespace FaultGate.Inspection

open FaultGate.Http (Request)
open FaultGate.Json (Document Value)

/-! ## What means yes -/

/-- The JSON values that mean no. -/
inductive MeansNo : Value → Prop where
  | null : MeansNo .null
  | false : MeansNo (.bool false)
  | zero : MeansNo (.number (.integer 0))
  | positiveZero : MeansNo (.number (.real ⟨0⟩))
  | negativeZero : MeansNo (.number (.real ⟨0x8000000000000000⟩))
  | empty : MeansNo (.string "")
  | zeroText : MeansNo (.string "0")
  | emptyArray : MeansNo (.array [])

theorem flagValue_eq_true_iff {text : String} :
    flagValue text = true ↔ text ≠ "" ∧ text ≠ "0" := by
  rw [flagValue, Bool.and_eq_true, decide_eq_true_eq, decide_eq_true_eq]

/-- A floating-point number is zero if it has no bits, the one for its sign
apart. -/
theorem isZero_eq_true_iff {x : Number.Binary64} :
    x.isZero = true ↔ x = ⟨0⟩ ∨ x = ⟨0x8000000000000000⟩ := by
  obtain ⟨bits⟩ := x
  have hlt := bits.toNat_lt
  rw [Number.Binary64.isZero, Number.Binary64.exponentField, Number.Binary64.fractionField,
    Bool.and_eq_true, decide_eq_true_eq, decide_eq_true_eq, Number.Binary64.mk.injEq,
    Number.Binary64.mk.injEq, ← UInt64.toNat_inj, ← UInt64.toNat_inj]
  simp only [UInt64.reduceToNat, Nat.pow_eq]
  omega

theorem jsonFlag_eq_true_iff {v : Value} : jsonFlag v = true ↔ ¬ MeansNo v := by
  rw [← Bool.not_eq_false]
  refine not_congr ?_
  constructor
  · intro h
    cases v with
    | null => exact .null
    | bool b =>
        rw [jsonFlag] at h
        rw [h]
        exact .false
    | number n =>
        rw [jsonFlag, Bool.not_eq_false'] at h
        cases n with
        | integer n =>
            rw [Json.Number.isZero, decide_eq_true_eq] at h
            rw [h]
            exact .zero
        | real x =>
            rw [Json.Number.isZero] at h
            obtain rfl | rfl := isZero_eq_true_iff.mp h
            · exact .positiveZero
            · exact .negativeZero
    | string s =>
        rw [jsonFlag, ← Bool.not_eq_true, flagValue_eq_true_iff] at h
        by_cases hempty : s = ""
        · rw [hempty]
          exact .empty
        · have hzero : s = "0" := by
            by_contra hne
            exact h ⟨hempty, hne⟩
          rw [hzero]
          exact .zeroText
    | array items =>
        rw [jsonFlag, Bool.not_eq_false', List.isEmpty_iff] at h
        rw [h]
        exact .emptyArray
    | object members => cases h
  · intro h
    cases h with
    | null | false | zero | positiveZero | negativeZero | empty | zeroText | emptyArray => rfl

/-! ## What the three places hold -/

theorem getLast?_valuesOf {α : Type} (name : String) (entries : List (String × α)) :
    (valuesOf name entries).getLast? = entries.reverse.lookup name := by
  rw [← head?_valuesOf, valuesOf, valuesOf, List.filter_reverse, List.map_reverse,
    List.head?_reverse]

/-- The input that the body holds. A form counts with its first input, an object
with its last. -/
inductive BodyInput (r : Request) : Bool → Prop where
  | form {pairs : List (String × String)} {value : String} {b : Bool}
      (h : Announced r .form) (hbody : Form.Encodes r.body pairs)
      (hfirst : (valuesOf testModeInput pairs).head? = some value)
      (hb : b = true ↔ value ≠ "" ∧ value ≠ "0") : BodyInput r b
  | json {text : String} {members : List (String × Value)} {value : Value} {b : Bool}
      (h : Announced r .json) (hbody : r.body = Text.utf8 text)
      (hdocument : Document (.object members) text)
      (hdepth : (Value.object members).within Json.maxDepth = true)
      (hlast : (valuesOf testModeInput members).getLast? = some value)
      (hb : b = true ↔ ¬ MeansNo value) : BodyInput r b

/-- The input that the query holds, the last one if there are several. -/
def QueryInput (r : Request) (b : Bool) : Prop :=
  ∃ query pairs value, r.uri.query = some query ∧ Form.Encodes (Text.utf8 query) pairs ∧
    (valuesOf testModeInput pairs).getLast? = some value ∧
    (b = true ↔ value ≠ "" ∧ value ≠ "0")

def HeaderAsks (r : Request) : Prop :=
  ∃ text, HeaderText r testModeHeader text ∧ text ≠ "" ∧ text ≠ "0"

/-- The input that counts: what the body holds, else what the query holds, else
no. -/
inductive Decided (r : Request) : Bool → Prop where
  | body {b : Bool} (h : BodyInput r b) : Decided r b
  | query {b : Bool} (hbody : ∀ b, ¬ BodyInput r b) (h : QueryInput r b) : Decided r b
  | neither (hbody : ∀ b, ¬ BodyInput r b) (hquery : ∀ b, ¬ QueryInput r b) :
      Decided r false

/-! ## The places as they are read -/

/-- The input in the body of a request, if that is one that is read. -/
def bodyFlagOf? (r : Request) : Option Bool :=
  (format? r).bind fun format => bodyFlag? format r.body

theorem map_flag_eq_some_iff {α : Type} {flag : α → Bool} {yes : α → Prop}
    (hflag : ∀ {value}, flag value = true ↔ yes value) {found : Option α} {b : Bool} :
    found.map flag = some b ↔ ∃ value, found = some value ∧ (b = true ↔ yes value) := by
  rw [Option.map_eq_some_iff]
  refine exists_congr fun value => and_congr_right fun _ => ?_
  rw [← hflag]
  cases b <;> cases flag value <;> decide

theorem formFlag?_eq_some_iff {body : Http.Bytes} {b : Bool} :
    formFlag? body = some b ↔ ∃ pairs value, Form.Encodes body pairs ∧
      (valuesOf testModeInput pairs).head? = some value ∧
      (b = true ↔ value ≠ "" ∧ value ≠ "0") := by
  rw [formFlag?, map_flag_eq_some_iff flagValue_eq_true_iff]
  simp only [← Form.decode_eq_iff, exists_and_left, exists_eq_left', head?_valuesOf]

theorem queryFlag?_eq_some_iff {r : Request} {b : Bool} :
    queryFlag? r = some b ↔ QueryInput r b := by
  rw [queryFlag?, QueryInput]
  cases r.uri.query with
  | none =>
      constructor
      · intro h
        cases h
      · rintro ⟨_, _, _, h, _⟩
        cases h
  | some query =>
      simp only [map_flag_eq_some_iff flagValue_eq_true_iff, ← Form.decode_eq_iff,
        Option.some.injEq, exists_and_left, exists_eq_left', getLast?_valuesOf]

theorem member?_eq_some_iff {v value : Value} {name : String} :
    v.member? name = some value ↔
      ∃ members, v = .object members ∧ (valuesOf name members).getLast? = some value := by
  cases v with
  | object members =>
      simp only [Value.member?, Value.object.injEq, exists_eq_left', getLast?_valuesOf]
  | null | bool | number | string | array =>
      constructor
      · intro h
        cases h
      · rintro ⟨_, h, _⟩
        cases h

theorem jsonFlag?_eq_some_iff {body : Http.Bytes} {b : Bool} :
    jsonFlag? body = some b ↔ ∃ members value,
      Value.ofBytes? body = some (.object members) ∧
      (valuesOf testModeInput members).getLast? = some value ∧
      (b = true ↔ ¬ MeansNo value) := by
  rw [jsonFlag?, map_flag_eq_some_iff jsonFlag_eq_true_iff]
  simp only [Option.bind_eq_some_iff, member?_eq_some_iff]
  constructor
  · rintro ⟨value, ⟨v, hv, members, rfl, hlast⟩, hb⟩
    exact ⟨members, value, hv, hlast, hb⟩
  · rintro ⟨members, value, hv, hlast, hb⟩
    exact ⟨value, ⟨_, hv, members, rfl, hlast⟩, hb⟩

theorem bodyFlagOf?_eq_some_iff {r : Request} {b : Bool} :
    bodyFlagOf? r = some b ↔ BodyInput r b := by
  rw [bodyFlagOf?, Option.bind_eq_some_iff]
  constructor
  · rintro ⟨format, hformat, hflag⟩
    have hannounced := format?_eq_some_iff.mp hformat
    cases format with
    | form =>
        obtain ⟨pairs, value, hbody, hfirst, hb⟩ := formFlag?_eq_some_iff.mp hflag
        exact .form hannounced hbody hfirst hb
    | json =>
        obtain ⟨members, value, hv, hlast, hb⟩ := jsonFlag?_eq_some_iff.mp hflag
        obtain ⟨hdepth, text, hbody, hdocument⟩ := Json.ofBytes?_eq_some_iff.mp hv
        exact .json hannounced hbody hdocument hdepth hlast hb
  · intro h
    cases h with
    | form h hbody hfirst hb =>
        exact ⟨.form, format?_eq_some_iff.mpr h,
          formFlag?_eq_some_iff.mpr ⟨_, _, hbody, hfirst, hb⟩⟩
    | json h hbody hdocument hdepth hlast hb =>
        have hv := Json.ofBytes?_eq_some_iff.mpr ⟨hdepth, _, hbody, hdocument⟩
        exact ⟨.json, format?_eq_some_iff.mpr h,
          jsonFlag?_eq_some_iff.mpr ⟨_, _, hv, hlast, hb⟩⟩

theorem headerFlag_eq_true_iff {r : Request} : headerFlag r = true ↔ HeaderAsks r := by
  rw [headerFlag, HeaderAsks]
  simp only [← headerText?_eq_some_iff]
  cases r.headerText? testModeHeader with
  | none => simp
  | some text => simp only [flagValue_eq_true_iff, Option.some.injEq, exists_eq_left']

theorem forall_not_bodyInput_iff {r : Request} :
    (∀ b, ¬ BodyInput r b) ↔ bodyFlagOf? r = none := by
  simp only [← bodyFlagOf?_eq_some_iff, Option.eq_none_iff_forall_ne_some, ne_eq]

theorem forall_not_queryInput_iff {r : Request} :
    (∀ b, ¬ QueryInput r b) ↔ queryFlag? r = none := by
  simp only [← queryFlag?_eq_some_iff, Option.eq_none_iff_forall_ne_some, ne_eq]

theorem decided_iff {r : Request} {b : Bool} :
    Decided r b ↔ ((bodyFlagOf? r).or (queryFlag? r)).getD false = b := by
  constructor
  · intro h
    cases h with
    | body h => rw [bodyFlagOf?_eq_some_iff.mpr h, Option.some_or, Option.getD_some]
    | query hbody h =>
        rw [forall_not_bodyInput_iff.mp hbody, Option.none_or,
          queryFlag?_eq_some_iff.mpr h, Option.getD_some]
    | neither hbody hquery =>
        rw [forall_not_bodyInput_iff.mp hbody, Option.none_or,
          forall_not_queryInput_iff.mp hquery, Option.getD_none]
  · rintro rfl
    cases hbody : bodyFlagOf? r with
    | some b =>
        rw [Option.some_or, Option.getD_some]
        exact .body (bodyFlagOf?_eq_some_iff.mp hbody)
    | none =>
        have hbody := forall_not_bodyInput_iff.mpr hbody
        rw [Option.none_or]
        cases hquery : queryFlag? r with
        | some b => exact .query hbody (queryFlag?_eq_some_iff.mp hquery)
        | none => exact .neither hbody (forall_not_queryInput_iff.mpr hquery)

/-- The ways in which a body holds no input. -/
inductive Silent (r : Request) : Prop where
  | unread (h : ∀ format, ¬ Announced r format)
  | form {pairs : List (String × String)} (h : Announced r .form)
      (hbody : Form.Encodes r.body pairs) (hnone : valuesOf testModeInput pairs = [])
  | malformed (h : Announced r .json)
      (hbody : ∀ v text, r.body = Text.utf8 text → Document v text →
        v.within Json.maxDepth = false)
  | noObject {v : Value} {text : String} (h : Announced r .json)
      (hbody : r.body = Text.utf8 text) (hdocument : Document v text)
      (hv : ∀ members, v ≠ .object members)
  | object {members : List (String × Value)} {text : String} (h : Announced r .json)
      (hbody : r.body = Text.utf8 text) (hdocument : Document (.object members) text)
      (hnone : valuesOf testModeInput members = [])

theorem announced_unique {r : Request} {format format' : Format}
    (h : Announced r format) (h' : Announced r format') : format = format' := by
  have hformat := format?_eq_some_iff.mpr h
  rw [format?_eq_some_iff.mpr h'] at hformat
  injection hformat with hformat
  exact hformat.symm

theorem not_bodyInput_of_silent {r : Request} (h : Silent r) (b : Bool) :
    ¬ BodyInput r b := by
  intro hinput
  cases hinput with
  | @form pairs value _ hannounced hbody hfirst _ =>
      cases h with
      | unread h => exact h _ hannounced
      | form _ hbody' hnone =>
          rw [← Form.decode_eq_iff] at hbody hbody'
          rw [← hbody, hbody', hnone] at hfirst
          cases hfirst
      | malformed h | noObject h | object h => cases announced_unique hannounced h
  | @json text members value _ hannounced hbody hdocument hdepth hlast _ =>
      cases h with
      | unread h => exact h _ hannounced
      | form h => cases announced_unique hannounced h
      | malformed _ hall =>
          have hdeep := hall _ _ hbody hdocument
          rw [hdepth] at hdeep
          cases hdeep
      | noObject _ hbody' hdocument' hv =>
          -- one body is one text, and one text is a document of one value
          rw [hbody] at hbody'
          rw [← Text.utf8_injective hbody'] at hdocument'
          exact hv members (Json.document_unique hdocument' hdocument)
      | object _ hbody' hdocument' hnone =>
          rw [hbody] at hbody'
          rw [← Text.utf8_injective hbody'] at hdocument'
          have hmembers := Json.document_unique hdocument' hdocument
          injection hmembers with hmembers
          rw [← hmembers, hnone] at hlast
          cases hlast

/-- A form has its pairs whatever it is, so it is silent only for want of the
input; a document can be silent in three ways. -/
theorem silent_of_bodyFlagOf?_eq_none {r : Request} (h : bodyFlagOf? r = none) :
    Silent r := by
  rw [bodyFlagOf?] at h
  cases hformat : format? r with
  | none =>
      refine .unread fun format hannounced => ?_
      rw [format?_eq_some_iff.mpr hannounced] at hformat
      cases hformat
  | some format =>
      rw [hformat, Option.bind_some] at h
      have hannounced := format?_eq_some_iff.mp hformat
      cases format with
      | form =>
          rw [bodyFlag?, formFlag?, Option.map_eq_none_iff, ← head?_valuesOf] at h
          exact .form hannounced (Form.decode_eq_iff.mp rfl) (List.head?_eq_none_iff.mp h)
      | json =>
          rw [bodyFlag?, jsonFlag?, Option.map_eq_none_iff] at h
          cases hv : Value.ofBytes? r.body with
          | none =>
              refine .malformed hannounced fun v text hbody hdocument => ?_
              rw [← Bool.not_eq_true]
              intro hdepth
              rw [Json.ofBytes?_eq_some_iff.mpr ⟨hdepth, text, hbody, hdocument⟩] at hv
              cases hv
          | some v =>
              rw [hv, Option.bind_some] at h
              obtain ⟨_, text, hbody, hdocument⟩ := Json.ofBytes?_eq_some_iff.mp hv
              cases v with
              | object members =>
                  rw [Value.member?, ← getLast?_valuesOf] at h
                  exact .object hannounced hbody hdocument (List.getLast?_eq_none_iff.mp h)
              | null | bool | number | string | array =>
                  exact .noObject hannounced hbody hdocument fun _ heq => by cases heq

theorem silent_iff {r : Request} : Silent r ↔ ∀ b, ¬ BodyInput r b := by
  constructor
  · exact not_bodyInput_of_silent
  · intro h
    exact silent_of_bodyFlagOf?_eq_none (forall_not_bodyInput_iff.mp h)

/-! ## The decision -/

theorem read_eq {freshId : String} {request passed : Request} {ctx : RequestContext}
    (h : read freshId request = .accepted ctx passed) :
    ctx = contextWith freshId request ((bodyFlagOf? request).or (queryFlag? request)) := by
  rw [read] at h
  split at h
  · rename_i hformat
    injection h with hctx
    rw [← hctx, bodyFlagOf?, hformat]
    rfl
  · rename_i format hformat
    split at h
    · cases h
    · rename_i bytes hbytes
      have hbody := readBody?_eq_some hbytes
      subst hbody
      injection h with hctx
      rw [← hctx, bodyFlagOf?, hformat]
      rfl

/-- A request that is not rejected is in test mode if its header asks for it, or
if the input that counts says yes: the body's, else the query's. The body has
none exactly if it is silent, and the context is then the one that is read
without the body. -/
theorem read_testMode {freshId : String} {request passed : Request} {ctx : RequestContext}
    (h : read freshId request = .accepted ctx passed) :
    ctx.path = request.uri.path ∧
      (∃! b, Decided request b) ∧
      (∀ b, Decided request b → (ctx.testMode = true ↔ HeaderAsks request ∨ b = true)) ∧
      (Silent request ↔ ∀ b, ¬ BodyInput request b) ∧
      (Silent request → ∀ otherId, (context otherId request).path = ctx.path ∧
        (context otherId request).testMode = ctx.testMode) := by
  have hctx := read_eq h
  refine ⟨?_, ?_, ?_, silent_iff, ?_⟩
  · rw [hctx]
    rfl
  · exact ⟨_, decided_iff.mpr rfl, fun b hb => (decided_iff.mp hb).symm⟩
  · intro b hb
    rw [hctx, contextWith, Bool.or_eq_true, decided_iff.mp hb, headerFlag_eq_true_iff,
      or_comm]
  · intro hsilent otherId
    have hnone := forall_not_bodyInput_iff.mp (not_bodyInput_of_silent hsilent)
    rw [hctx, hnone, Option.none_or]
    exact ⟨rfl, rfl⟩

/-- A body that says no, under a query that says yes. -/
def contradicting : Request where
  method := "POST"
  uri := ⟨"/a", some "__test_mode=1"⟩
  headers := [("content-length", Text.utf8 "13"),
    ("content-type", Text.utf8 "application/x-www-form-urlencoded")]
  body := Text.utf8 "__test_mode=0"

theorem read_testMode_contradicting :
    read "id" contradicting = .accepted ⟨"/a", false, "id"⟩ contradicting ∧
      QueryInput contradicting true ∧ Decided contradicting false ∧
      ¬ HeaderAsks contradicting := by
  have hread : read "id" contradicting = .accepted ⟨"/a", false, "id"⟩ contradicting := by
    rfl
  have hquery : QueryInput contradicting true := queryFlag?_eq_some_iff.mp (by decide)
  obtain ⟨_, ⟨b, hb, _⟩, hmode, _⟩ := read_testMode hread
  have hno : ¬ (HeaderAsks contradicting ∨ b = true) := by
    intro hyes
    cases (hmode b hb).mpr hyes
  obtain ⟨hheader, hfalse⟩ := not_or.mp hno
  rw [Bool.not_eq_true] at hfalse
  rw [hfalse] at hb
  exact ⟨hread, hquery, hb, hheader⟩

end FaultGate.Inspection
