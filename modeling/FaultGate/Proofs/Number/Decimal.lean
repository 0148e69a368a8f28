import FaultGate.Number.Reading
import FaultGate.Proofs.Text.Hexadecimal
import Mathlib.Tactic.SplitIfs

/-!
# Decimal numbers in headers

The length of a body is announced as a decimal number, which may have zeros and
a plus sign in front. The reader of such numbers works in any base up to 36, so
most of what follows only says that in base ten it has ten digits.
-/

namespace FaultGate.Number

/-- A number in decimal, with zeros before it or not, and with a plus sign before
them or not. -/
inductive SpellsNatural : List Char → Nat → Prop where
  | bare {ds : List Nat} (hne : ds ≠ []) (hds : ∀ d ∈ ds, d < 10) :
      SpellsNatural (ds.map Nat.digitChar) (Json.ofDigits ds)
  | plus {ds : List Nat} (hne : ds ≠ []) (hds : ∀ d ∈ ds, d < 10) :
      SpellsNatural ('+' :: ds.map Nat.digitChar) (Json.ofDigits ds)

theorem digitValue?_eq_some_iff {c : Char} {d : Nat} :
    digitValue? 10 c = some d ↔ d < 10 ∧ c = d.digitChar := by
  have hchar : d < 10 → (c = d.digitChar ↔ c.toNat = 0x30 + d) := by
    intro hd
    rw [← Char.toNat_inj, Nat.toNat_digitChar_of_lt_ten hd]
  have hrange : d < 10 ∧ c = d.digitChar ↔ d < 10 ∧ c.toNat = 0x30 + d :=
    and_congr_right hchar
  rw [digitValue?, hrange]
  simp only [Text.char_le_iff, Bool.and_eq_true, decide_eq_true_eq, Char.reduceToNat]
  split_ifs <;> simp only [Option.some.injEq, false_iff] <;> omega

theorem digitsFrom_eq_some_iff {text : List Char} {acc n : Nat} :
    digitsFrom 10 acc text = some n ↔
      ∃ ds : List Nat, text = ds.map Nat.digitChar ∧ (∀ d ∈ ds, d < 10) ∧
        ds.foldl (fun m d => m * 10 + d) acc = n := by
  induction text generalizing acc with
  | nil =>
      rw [digitsFrom, Option.some.injEq]
      constructor
      · intro h
        exact ⟨[], rfl, fun d hd => absurd hd List.not_mem_nil, h⟩
      · rintro ⟨ds, htext, _, hfold⟩
        rw [List.map_eq_nil_iff.mp htext.symm] at hfold
        exact hfold
  | cons c text ih =>
      rw [digitsFrom]
      constructor
      · intro h
        split at h
        · rename_i d hd
          obtain ⟨hlt, rfl⟩ := digitValue?_eq_some_iff.mp hd
          obtain ⟨ds, rfl, hds, hfold⟩ := ih.mp h
          exact ⟨d :: ds, rfl, List.forall_mem_cons.mpr ⟨hlt, hds⟩, hfold⟩
        · cases h
      · rintro ⟨ds, htext, hds, hfold⟩
        cases ds with
        | nil => cases htext
        | cons d ds =>
            rw [List.map_cons] at htext
            injection htext with hc htext
            obtain ⟨hlt, hds⟩ := List.forall_mem_cons.mp hds
            rw [digitValue?_eq_some_iff.mpr ⟨hlt, hc⟩]
            exact ih.mpr ⟨ds, htext, hds, hfold⟩

theorem natural?_eq_some_iff {text : List Char} {n : Nat} :
    natural? 10 text = some n ↔
      ∃ ds : List Nat, ds ≠ [] ∧ text = ds.map Nat.digitChar ∧ (∀ d ∈ ds, d < 10) ∧
        Json.ofDigits ds = n := by
  rw [natural?]
  split
  · rename_i hempty
    rw [List.isEmpty_iff] at hempty
    constructor
    · intro h
      cases h
    · rintro ⟨ds, hne, htext, _⟩
      rw [hempty] at htext
      exact absurd (List.map_eq_nil_iff.mp htext.symm) hne
  · rename_i hempty
    rw [List.isEmpty_iff] at hempty
    rw [digitsFrom_eq_some_iff]
    constructor
    · rintro ⟨ds, htext, hds, hfold⟩
      refine ⟨ds, ?_, htext, hds, hfold⟩
      rintro rfl
      exact hempty htext
    · rintro ⟨ds, _, htext, hds, hfold⟩
      exact ⟨ds, htext, hds, hfold⟩

theorem unsigned?_eq_some_iff {bound n : Nat} {text : List Char} :
    unsigned? bound text = some n ↔ SpellsNatural text n ∧ n < bound := by
  rw [unsigned?.eq_def]
  simp only [Option.filter_eq_some_iff, decide_eq_true_eq, natural?_eq_some_iff]
  refine and_congr_left fun _ => ?_
  constructor
  · rintro ⟨ds, hne, htext, hds, rfl⟩
    split at htext
    · rw [htext]
      exact .plus hne hds
    · rw [htext]
      exact .bare hne hds
  · intro h
    cases h with
    | @bare ds hne hds =>
        refine ⟨ds, hne, ?_, hds, rfl⟩
        split
        · -- no digit is a plus sign
          rename_i rest hplus
          obtain ⟨d, ds, rfl⟩ := List.exists_cons_of_ne_nil hne
          injection hplus with hplus _
          have hlt := hds d List.mem_cons_self
          have hchar := Nat.toNat_digitChar_of_lt_ten hlt
          rw [hplus] at hchar
          exact absurd hchar (by simp; omega)
        · rfl
    | @plus ds hne hds => exact ⟨ds, hne, rfl, hds, rfl⟩

end FaultGate.Number
