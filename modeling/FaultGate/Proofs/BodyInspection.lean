import FaultGate.Proofs.Number.Decimal
import FaultGate.Proofs.Rendering

/-!
# Reading a body leaves no trace

The layer that handles faults reads the body of some requests before the service
behind it sees them, and puts it back. Which requests those are is said here by
their headers alone, and what the service is given is said by a service that
writes down every request it is asked to answer.

One kind of request never reaches the service: a body that was announced as
short, in an encoding that is read, and then turns out to be longer than may be
read. Every other request arrives as it was sent, and an answer without a fault
goes back as it was given. Nothing in this depends on what the body says or on
whether its length was announced truly.
-/

namespace FaultGate

open FaultGate.Http (Bytes Reply Request Response Service)

/-! ## What the headers announce -/

namespace Inspection

/-- The values under a name, in their order. -/
def valuesOf {α : Type} (name : String) (entries : List (String × α)) : List α :=
  (entries.filter fun e => e.1 = name).map Prod.snd

theorem head?_valuesOf {α : Type} (name : String) (entries : List (String × α)) :
    (valuesOf name entries).head? = entries.lookup name := by
  induction entries with
  | nil => rfl
  | cons e entries ih =>
      rw [List.lookup_cons]
      by_cases hname : e.1 = name
      · rw [valuesOf, List.filter_cons_of_pos (by simpa using hname), List.map_cons,
          List.head?_cons, hname, beq_self_eq_true]
      · rw [valuesOf, List.filter_cons_of_neg (by simpa using hname), ← valuesOf, ih,
          beq_false_of_ne (Ne.symm hname)]

/-- The first value of a header is this text, of visible characters, spaces and
tabs. A header that is there more than once counts as its first value. -/
def HeaderText (r : Request) (name text : String) : Prop :=
  ∃ bytes, (valuesOf name r.headers).head? = some bytes ∧
    (∀ b ∈ bytes, b = 9 ∨ (0x20 ≤ b ∧ b ≤ 0x7e)) ∧
    text = String.ofList (bytes.map fun b => Char.ofNat b.toNat)

theorem isVisibleByte_eq_true_iff {b : UInt8} :
    Request.isVisibleByte b = true ↔ b = 9 ∨ (0x20 ≤ b ∧ b ≤ 0x7e) := by
  rw [Request.isVisibleByte, Bool.or_eq_true, Bool.and_eq_true, decide_eq_true_eq,
    decide_eq_true_eq, decide_eq_true_eq]
  refine or_congr_right (and_congr_right fun _ => ?_)
  simp only [UInt8.lt_iff_toNat_lt, UInt8.le_iff_toNat_le, UInt8.reduceToNat]
  omega

theorem headerText?_eq_some_iff {r : Request} {name text : String} :
    r.headerText? name = some text ↔ HeaderText r name text := by
  rw [Request.headerText?, Request.header?, HeaderText, head?_valuesOf]
  cases r.headers.lookup name with
  | none =>
      constructor
      · intro h
        cases h
      · rintro ⟨_, h, _⟩
        cases h
  | some bytes =>
      simp only [List.all_eq_true, isVisibleByte_eq_true_iff, Option.some.injEq,
        exists_eq_left']
      constructor
      · intro h
        split at h
        · rename_i hvisible
          injection h with h
          exact ⟨hvisible, h.symm⟩
        · cases h
      · rintro ⟨hvisible, htext⟩
        rw [if_pos hvisible, htext]

/-- The body is announced as a short one, in an encoding that is read. -/
def Announced (r : Request) (format : Format) : Prop :=
  (∃ text n, HeaderText r "content-length" text ∧ Number.SpellsNatural text.toList n ∧
    1 ≤ n ∧ n ≤ 65536) ∧
  ∃ text, HeaderText r "content-type" text ∧ formatOf? (mediaType text) = some format

theorem announcedLength?_eq_some_iff {r : Request} {n : Nat} :
    announcedLength? r = some n ↔
      ∃ text, HeaderText r "content-length" text ∧ Number.SpellsNatural text.toList n ∧
        n < UInt64.size := by
  rw [announcedLength?, Option.bind_eq_some_iff]
  simp only [headerText?_eq_some_iff, Number.unsigned?_eq_some_iff]

theorem format?_eq_some_iff {r : Request} {format : Format} :
    format? r = some format ↔ Announced r format := by
  have htype : ((r.headerText? "content-type").bind fun text => formatOf? (mediaType text)) =
      some format ↔
        ∃ text, HeaderText r "content-type" text ∧
          formatOf? (mediaType text) = some format := by
    rw [Option.bind_eq_some_iff]
    simp only [headerText?_eq_some_iff]
  have hmax : maxBody = 65536 := rfl
  rw [format?, Announced, ← htype]
  constructor
  · intro h
    split at h
    · cases h
    · rename_i n hn
      split at h
      · cases h
      · rename_i hrange
        simp only [Bool.or_eq_true, decide_eq_true_eq, not_or] at hrange
        obtain ⟨text, hheader, hdecimal, _⟩ := announcedLength?_eq_some_iff.mp hn
        exact ⟨⟨text, n, hheader, hdecimal, by omega, by omega⟩, h⟩
  · rintro ⟨⟨text, n, hheader, hdecimal, hlow, hhigh⟩, h⟩
    have hsize : UInt64.size = 2 ^ 64 := rfl
    have hlength := announcedLength?_eq_some_iff.mpr ⟨text, hheader, hdecimal, by omega⟩
    have hrange : ¬ (decide (n = 0) || decide (maxBody < n)) = true := by
      simp only [Bool.or_eq_true, decide_eq_true_eq, not_or]
      omega
    simp only [hlength, if_neg hrange]
    exact h

/-- The body is announced as one that is read, and cannot be read because it is
longer than that. -/
def Overlong (r : Request) : Prop :=
  (∃ format, Announced r format) ∧ 65536 < r.body.length

theorem read_of_overlong {r : Request} (freshId : String) (h : Overlong r) :
    read freshId r = .rejected (rejectionEvent r) := by
  obtain ⟨⟨format, hformat⟩, hlong⟩ := h
  have hlimit : ¬ r.body.length ≤ maxBody := Nat.not_le.mpr hlong
  rw [read, format?_eq_some_iff.mpr hformat, readBody?, if_neg hlimit]

theorem read_of_not_overlong {r : Request} (freshId : String) (h : ¬ Overlong r) :
    ∃ ctx, read freshId r = .accepted ctx r := by
  rcases read_cases freshId r with ⟨event, hr⟩ | ⟨ctx, hr, _⟩
  · -- a request is only rejected where its body was to be read and was too long
    refine absurd ?_ h
    rw [read] at hr
    split at hr
    · cases hr
    · rename_i format hformat
      refine ⟨⟨format, format?_eq_some_iff.mp hformat⟩, ?_⟩
      by_cases hlimit : r.body.length ≤ maxBody
      · rw [readBody?, if_pos hlimit] at hr
        cases hr
      · exact Nat.lt_of_not_le hlimit
  · exact ⟨ctx, hr⟩

end Inspection

/-! ## What the service is given -/

/-- The service that writes down each request before it passes it to another
one. -/
def Http.recording {σ : Type} (inner : Service σ) : Service (σ × List Request) :=
  fun request state =>
    let reply := inner request state.1
    ⟨reply.response, reply.events, (reply.state, state.2 ++ [request])⟩

namespace FaultHandler

variable {σ : Type}

/-- Settling a fault is the same whatever else is kept beside the state. -/
theorem settle_beside {τ : Type} (h : FaultHandler) (ctx : RequestContext) (reply : Reply σ)
    (kept : τ) :
    h.settle ctx ⟨reply.response, reply.events, (reply.state, kept)⟩ =
      ⟨(h.settle ctx reply).response, (h.settle ctx reply).events,
        ((h.settle ctx reply).state, kept)⟩ := by
  rw [settle, settle]
  cases reply.response.parked with
  | none => rfl
  | some fault =>
      simp only [handle]
      cases h.answer ctx fault with
      | ok response => rfl
      | error e => rfl

/-- Around any service, the layer answers with a bare 400 and without the service
exactly where a body turns out longer than it was announced to be read. In every
other case the service is given the request that came in, once and with nothing
changed; what it answers is settled, and without a fault it is sent as it is. -/
theorem layer_passes_on_unchanged (h : FaultHandler) (inner : Service σ) (freshId : String)
    (request : Request) (state : σ) :
    let reply := h.layer (Http.recording inner) freshId request (state, [])
    (reply.state.2 = [] ↔ Inspection.Overlong request) ∧
      (Inspection.Overlong request →
        reply.response = .bare .badRequest ∧ reply.state.1 = state) ∧
      (¬ Inspection.Overlong request →
        reply.state = ((inner request state).state, [request])) ∧
      h.layer inner freshId request state = ⟨reply.response, reply.events, reply.state.1⟩ ∧
      (¬ Inspection.Overlong request → (inner request state).response.parked = none →
        h.layer inner freshId request state = inner request state) := by
  intro reply
  by_cases hlong : Inspection.Overlong request
  · -- the rejection stands in front of the service, which is not asked
    have hr := Inspection.read_of_overlong freshId hlong
    have hreply : reply = ⟨.bare .badRequest, [Inspection.rejectionEvent request],
        (state, [])⟩ := layer_rejected hr (Http.recording inner) (state, [])
    rw [hreply]
    refine ⟨⟨fun _ => hlong, fun _ => rfl⟩, fun _ => ⟨rfl, rfl⟩, fun h => absurd hlong h,
      layer_rejected hr inner state, fun h => absurd hlong h⟩
  · obtain ⟨ctx, hr⟩ := Inspection.read_of_not_overlong freshId hlong
    have hreply : reply = h.settle ctx (Http.recording inner request (state, [])) :=
      layer_accepted hr (Http.recording inner) (state, [])
    have hstate : reply.state = ((inner request state).state, [request]) := by
      rw [hreply, settle_state]
      rfl
    refine ⟨⟨fun h => ?_, fun h => absurd h hlong⟩, fun h => absurd h hlong,
      fun _ => hstate, ?_, fun _ hp => ?_⟩
    · rw [hstate] at h
      cases h
    · have hsettle := h.settle_beside ctx (inner request state) [request]
      rw [layer_accepted hr, hreply]
      exact congrArg (fun r : Reply (σ × List Request) => (⟨r.response, r.events, r.state.1⟩ :
        Reply σ)) hsettle.symm
    · rw [layer_accepted hr, settle_of_none ctx hp]

end FaultHandler

end FaultGate
