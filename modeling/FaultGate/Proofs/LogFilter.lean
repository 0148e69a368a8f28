import FaultGate.Startup.Launch

/-!
# What a log filter lets pass

The directive that counts for an event is found by going through all of them once. That
it is the most specific one does not depend on their order, because being at least as
specific is a total preorder; only among equals the order counts. A directive that asks
for a span is never the one, and a filter that has no others logs nothing at all: the
threshold of the settings does not come back in its place.
-/

namespace FaultGate.Log

namespace Directive

variable {a b c : Directive}

theorem outranks_trans (hab : a.outranks b = true) (hbc : b.outranks c = true) :
    a.outranks c = true := by
  simp only [outranks, Bool.or_eq_true, Bool.and_eq_true, decide_eq_true_eq] at *
  obtain hab | ⟨hab, hfields⟩ := hab
  · obtain hbc | ⟨hbc, _⟩ := hbc
    · exact Or.inl (Nat.lt_trans hbc hab)
    · exact Or.inl (hbc ▸ hab)
  · obtain hbc | ⟨hbc, hfields'⟩ := hbc
    · exact Or.inl (hab ▸ hbc)
    · refine Or.inr ⟨hbc.trans hab, ?_⟩
      cases hc : c.field with
      | none => rfl
      | some z =>
          rw [hc] at hfields'
          cases hb : b.field with
          | none =>
              rw [hb] at hfields'
              cases hfields'
          | some y =>
              rw [hb] at hfields hfields'
              cases ha : a.field with
              | none =>
                  rw [ha] at hfields
                  cases hfields
              | some x =>
                  rw [ha] at hfields
                  simp only [decide_eq_true_eq] at *
                  exact String.le_trans hfields' hfields

theorem outranks_total (a b : Directive) : a.outranks b = true ∨ b.outranks a = true := by
  simp only [outranks, Bool.or_eq_true, Bool.and_eq_true, decide_eq_true_eq]
  obtain hlt | heq | hgt := Nat.lt_trichotomy a.reach b.reach
  · exact Or.inr (Or.inl hlt)
  · cases ha : a.field with
    | none => exact Or.inr (Or.inr ⟨heq, rfl⟩)
    | some x =>
        cases hb : b.field with
        | none => exact Or.inl (Or.inr ⟨heq.symm, rfl⟩)
        | some y =>
            simp only [decide_eq_true_eq]
            obtain hle | hle := String.le_total y.name x.name
            · exact Or.inl (Or.inr ⟨heq.symm, hle⟩)
            · exact Or.inr (Or.inr ⟨heq, hle⟩)
  · exact Or.inl (Or.inl hgt)

theorem outranks_refl (a : Directive) : a.outranks a = true := by
  obtain h | h := outranks_total a a <;> exact h

/-- What is left in the end was at least as specific as all that came by. -/
theorem of_foldl_preferred {best : Option Directive} {ds : List Directive} {d : Directive}
    (h : ds.foldl preferred best = some d) :
    (best = some d ∨ d ∈ ds) ∧ (∀ b ∈ best, d.outranks b = true) ∧
      ∀ other ∈ ds, d.outranks other = true := by
  induction ds generalizing best with
  | nil =>
      rw [List.foldl_nil] at h
      refine ⟨Or.inl h, fun b hb => ?_, nofun⟩
      rw [h, Option.mem_some_iff] at hb
      exact hb ▸ outranks_refl d
  | cons x rest ih =>
      rw [List.foldl_cons, preferred] at h
      split at h
      · next hall =>
          obtain ⟨hmem, hbest, hrest⟩ := ih h
          have hx := hbest x rfl
          refine ⟨Or.inr ?_, fun b hb => ?_, List.forall_mem_cons.mpr ⟨hx, hrest⟩⟩
          · obtain heq | hmem := hmem
            · injection heq with heq
              exact heq ▸ List.mem_cons_self
            · exact List.mem_cons_of_mem x hmem
          · rw [Option.mem_def.mp hb, Option.all_some] at hall
            exact outranks_trans hx hall
      · next hall =>
          obtain ⟨hmem, hbest, hrest⟩ := ih h
          refine ⟨hmem.imp_right (List.mem_cons_of_mem x), hbest,
            List.forall_mem_cons.mpr ⟨?_, hrest⟩⟩
          cases best with
          | none => exact absurd rfl hall
          | some b =>
              have hb := (outranks_total x b).resolve_left hall
              exact outranks_trans (hbest b rfl) hb

theorem foldl_preferred_isSome (b : Directive) (ds : List Directive) :
    (ds.foldl preferred (some b)).isSome = true := by
  induction ds generalizing b with
  | nil => rfl
  | cons x rest ih =>
      rw [List.foldl_cons, preferred]
      split
      · exact ih x
      · exact ih b

end Directive

namespace Filter

variable {f : Filter} {e : Event} {d : Directive}

/-- Is this one of the directives, and is it about the event? -/
def Concerns (f : Filter) (d : Directive) (e : Event) : Prop :=
  d ∈ f.directives ∧ d.isStatic = true ∧ d.covers e = true

theorem concerns_iff_mem :
    f.Concerns d e ↔ d ∈ f.directives.filter fun d => d.isStatic && d.covers e := by
  rw [List.mem_filter, Bool.and_eq_true]
  rfl

/-- The directive that counts is about the event, and none that is about it is more
specific. -/
theorem of_chosen? (h : f.chosen? e = some d) :
    f.Concerns d e ∧ ∀ other, f.Concerns other e → d.outranks other = true := by
  obtain ⟨hmem, _, hall⟩ := Directive.of_foldl_preferred h
  refine ⟨concerns_iff_mem.mpr (hmem.resolve_left nofun), fun other hother => ?_⟩
  exact hall other (concerns_iff_mem.mp hother)

theorem chosen?_eq_none_iff : f.chosen? e = none ↔ ∀ d, ¬ f.Concerns d e := by
  simp only [concerns_iff_mem]
  rw [← List.eq_nil_iff_forall_not_mem]
  refine ⟨fun h => ?_, fun h => by rw [chosen?, h]; rfl⟩
  cases hds : f.directives.filter fun d => d.isStatic && d.covers e with
  | nil => rfl
  | cons x rest =>
      rw [chosen?, hds] at h
      have hsome := Directive.foldl_preferred_isSome x rest
      rw [List.foldl_cons] at h
      rw [show Directive.preferred none x = some x from rfl] at h
      rw [h] at hsome
      cases hsome

/-- An event passes by a directive that is about it and that is as specific as any other,
or because it is an error and there are no directives. -/
theorem passes_cases (h : f.passes e = true) :
    f.directives = [] ∧ e.level = .error ∨
      ∃ d, f.Concerns d e ∧ (∀ other, f.Concerns other e → d.outranks other = true) ∧
        d.threshold.passes e.level = true := by
  rw [passes, threshold] at h
  split at h
  · next hempty =>
      refine Or.inl ⟨List.isEmpty_iff.mp hempty, ?_⟩
      cases hlevel : e.level <;> rw [hlevel] at h <;> first | rfl | cases h
  · split at h
    · next d hchosen =>
        obtain ⟨hconcerns, hall⟩ := of_chosen? hchosen
        exact Or.inr ⟨d, hconcerns, hall, h⟩
    · cases h

/-- Outside of spans, a filter whose directives all ask for one lets nothing pass. -/
theorem passes_of_none_static (hne : f.directives ≠ [])
    (h : ∀ d ∈ f.directives, d.isStatic = false) (e : Event) : f.passes e = false := by
  refine eq_false_of_ne_true fun hpasses => ?_
  obtain ⟨hempty, _⟩ | ⟨d, ⟨hmem, hstatic, _⟩, _⟩ := passes_cases hpasses
  · exact hne hempty
  · rw [h d hmem] at hstatic
    cases hstatic

/-- With a directive that asks for a span in the environment, what the settings say has no
effect. -/
example (logging : Settings.Logging) (e : Event) :
    (Launch.filterOf (some "[request]=debug") logging).passes e = false := by
  rfl

end Filter

end FaultGate.Log
