import FaultGate.Proofs.HandledOnce

/-!
# Which faults are reported as errors

Somebody is called when the log has an error in it, so there should be one for every
error that nobody foresaw and for nothing else. Domain faults and maintenance signals
are foreseen. Of the unknown errors those are left out that somebody asked to have left
out, by a text that occurs in them.

The text is looked for by a search that goes along the characters. That the search finds
what it should is the first thing here, and after it the policy is a statement about
texts in which no search occurs. It looks at the outermost text only, so a cause that
contains an ignored text does not hide an error, and what else is known of the request
has no say. The rest follows from the statement: only the set of ignored texts counts,
and a larger set leaves less to report.
-/

namespace FaultGate

/-- The part stands in the text, in one piece. -/
def StandsIn (part text : String) : Prop :=
  ∃ before after, text = before ++ part ++ after

/-! ## The search for a text -/

theorem occursIn_iff_infix {part text : List Char} :
    occursIn part text = true ↔ part <:+: text := by
  induction text with
  | nil => rw [occursIn, List.isEmpty_iff, List.infix_nil]
  | cons c rest ih =>
      -- the part is found here, or it is found further on
      rw [occursIn, Bool.or_eq_true, List.isPrefixOf_iff_prefix, ih, List.infix_cons_iff]

theorem containsText_eq_true_iff {text part : String} :
    containsText text part = true ↔ StandsIn part text := by
  rw [containsText, occursIn_iff_infix]
  constructor
  · rintro ⟨before, after, h⟩
    refine ⟨String.ofList before, String.ofList after, String.toList_inj.mp ?_⟩
    simp only [String.toList_append, String.toList_ofList, h]
  · rintro ⟨before, after, h⟩
    refine ⟨before.toList, after.toList, ?_⟩
    rw [h, String.toList_append, String.toList_append]

theorem standsIn_empty (text : String) : StandsIn "" text :=
  ⟨"", text, by simp⟩

namespace Reporter

/-- An unknown error, and no text that is to be ignored stands in its outermost one. -/
def Concerns (r : Reporter) (fault : Fault) : Prop :=
  ∃ e, fault = .unknown e ∧ ∀ part ∈ r.ignored, ¬ StandsIn part e.outermost

variable {r other : Reporter} {fault : Fault}

theorem shouldReport_eq_true_iff : r.shouldReport fault = true ↔ r.Concerns fault := by
  cases fault with
  | domain f => simp [shouldReport, Concerns]
  | maintenance signal => simp [shouldReport, Concerns]
  | unknown e => simp [shouldReport, Concerns, containsText_eq_true_iff]

theorem concerns_congr (h : ∀ part, part ∈ other.ignored ↔ part ∈ r.ignored) :
    other.Concerns fault ↔ r.Concerns fault := by
  simp only [Concerns, h]

theorem concerns_ignoring {part : String} :
    (r.ignoring part).Concerns fault ↔ r.Concerns fault ∧ ¬ StandsIn part fault.message := by
  constructor
  · rintro ⟨e, rfl, hnone⟩
    refine ⟨⟨e, rfl, fun own hown => hnone own ?_⟩, hnone part ?_⟩
    · exact List.mem_append_left [part] hown
    · exact List.mem_append_right r.ignored (List.mem_singleton_self part)
  · rintro ⟨⟨e, rfl, hnone⟩, hpart⟩
    refine ⟨e, rfl, fun own hown => ?_⟩
    rcases List.mem_append.mp hown with hown | hown
    · exact hnone own hown
    · rw [List.mem_singleton.mp hown]
      exact hpart

/-! ## The event -/

theorem report_of_concerns (h : r.Concerns fault) (ctx : RequestContext) :
    ∃ e, fault = .unknown e ∧ r.report ctx fault = errorEvent ctx e := by
  obtain ⟨e, rfl, _⟩ := id h
  refine ⟨e, rfl, ?_⟩
  rw [report, if_pos (shouldReport_eq_true_iff.mpr h)]

theorem report_of_not_concerns (h : ¬ r.Concerns fault) (ctx : RequestContext) :
    r.report ctx fault = noteEvent ctx fault := by
  cases fault with
  | domain f => rfl
  | maintenance signal => rfl
  | unknown e =>
      rw [report, if_neg fun hs => h (shouldReport_eq_true_iff.mp hs)]

theorem report_level (r : Reporter) (ctx : RequestContext) (fault : Fault) :
    r.Concerns fault ∧ (r.report ctx fault).level = .error ∨
      ¬ r.Concerns fault ∧ (r.report ctx fault).level = .debug := by
  by_cases h : r.Concerns fault
  · obtain ⟨e, _, hreport⟩ := report_of_concerns h ctx
    exact Or.inl ⟨h, by rw [hreport]; rfl⟩
  · exact Or.inr ⟨h, by rw [report_of_not_concerns h]; rfl⟩

theorem level_eq_error_iff {ctx : RequestContext} :
    (r.report ctx fault).level = .error ↔ r.Concerns fault := by
  rcases r.report_level ctx fault with ⟨hc, hl⟩ | ⟨hc, hl⟩
  · exact iff_of_true hl hc
  · rw [hl]
    exact iff_of_false (by decide) hc

theorem level_eq_debug_iff {ctx : RequestContext} :
    (r.report ctx fault).level = .debug ↔ ¬ r.Concerns fault := by
  rcases r.report_level ctx fault with ⟨hc, hl⟩ | ⟨hc, hl⟩
  · rw [hl]
    exact iff_of_false (by decide) (not_not_intro hc)
  · exact iff_of_true hl hc

theorem level_congr {ctx ctx' : RequestContext} {fault' : Fault}
    (h : r.Concerns fault ↔ r.Concerns fault') :
    (r.report ctx fault).level = (r.report ctx' fault').level := by
  rcases r.report_level ctx fault with ⟨hc, hl⟩ | ⟨hc, hl⟩
  · rw [hl, level_eq_error_iff.mpr (h.mp hc)]
  · rw [hl, level_eq_debug_iff.mpr fun hc' => hc (h.mpr hc')]

theorem report_congr (h : ∀ part, part ∈ other.ignored ↔ part ∈ r.ignored)
    (ctx : RequestContext) (fault : Fault) : other.report ctx fault = r.report ctx fault := by
  by_cases hc : r.Concerns fault
  · obtain ⟨e, rfl, hown⟩ := report_of_concerns hc ctx
    obtain ⟨e', heq, hother⟩ := report_of_concerns ((concerns_congr h).mpr hc) ctx
    injection heq with heq
    rw [hown, hother, heq]
  · have hother : ¬ other.Concerns fault := fun hc' => hc ((concerns_congr h).mp hc')
    rw [report_of_not_concerns hc, report_of_not_concerns hother]

/-- What a reporter makes of a fault, at any request. There is one event, an error if the
fault is an unknown one in whose outermost text no ignored text stands, and a note for
debugging otherwise. So neither the request nor the causes have a say, and foreseen faults
are never errors; of the ignored texts only the set counts, one more of them leaves less
to report, and the empty one leaves nothing. -/
theorem report_decided_by_outermost (r : Reporter) :
    (∀ ctx fault,
      ((r.report ctx fault).level = .error ↔
        ∃ e, fault = .unknown e ∧ ∀ part ∈ r.ignored, ¬ StandsIn part e.outermost) ∧
      ((r.report ctx fault).level = .debug ↔
        ¬ ∃ e, fault = .unknown e ∧ ∀ part ∈ r.ignored, ¬ StandsIn part e.outermost)) ∧
    (∀ (h : FaultHandler) ctx fault, h.reporter = r →
      (h.handle ctx fault).2 = [r.report ctx fault]) ∧
    -- Nothing else of the request or of the fault counts.
    (∀ ctx ctx' fault, (r.report ctx fault).level = (r.report ctx' fault).level) ∧
    (∀ ctx outermost causes causes',
      (r.report ctx (.unknown ⟨outermost, causes⟩)).level =
        (r.report ctx (.unknown ⟨outermost, causes'⟩)).level) ∧
    (∀ ctx f, (r.report ctx (.domain f)).level = .debug) ∧
    (∀ ctx signal, (r.report ctx (.maintenance signal)).level = .debug) ∧
    -- The ignored texts are a set.
    (∀ other : Reporter, (∀ part, part ∈ other.ignored ↔ part ∈ r.ignored) →
      ∀ ctx fault, other.report ctx fault = r.report ctx fault) ∧
    (∀ part ctx fault, ((r.ignoring part).report ctx fault).level = .error ↔
      (r.report ctx fault).level = .error ∧ ¬ StandsIn part fault.message) ∧
    ("" ∈ r.ignored → ∀ ctx e, (r.report ctx (.unknown e)).level = .debug) := by
  refine ⟨?_, ?_, ?_, ?_, ?_, ?_, ?_, ?_, ?_⟩
  · intro ctx fault
    exact ⟨level_eq_error_iff, level_eq_debug_iff⟩
  · rintro h ctx fault rfl
    rfl
  · intro ctx ctx' fault
    exact level_congr Iff.rfl
  · intro ctx outermost causes causes'
    refine level_congr ⟨?_, ?_⟩
    · rintro ⟨e, heq, hnone⟩
      cases heq
      exact ⟨_, rfl, hnone⟩
    · rintro ⟨e, heq, hnone⟩
      cases heq
      exact ⟨_, rfl, hnone⟩
  · intro ctx f
    rfl
  · intro ctx signal
    rfl
  · intro other h ctx fault
    exact report_congr h ctx fault
  · intro part ctx fault
    rw [level_eq_error_iff, level_eq_error_iff, concerns_ignoring]
  · rintro hempty ctx e
    rw [level_eq_debug_iff]
    rintro ⟨e', _, hnone⟩
    exact hnone "" hempty (standsIn_empty e'.outermost)

/-- A text that stands in a cause alone hides nothing. -/
example : ((empty.ignoring "pipe").report ⟨"/api", false, "r-1"⟩
    (.unknown ⟨"write failed", ["broken pipe"]⟩)).level = .error := by decide

end Reporter

end FaultGate
