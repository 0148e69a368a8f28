import FaultGate.Proofs.Settings.Registration

/-!
# The listing of the kinds

A registry lists its kinds in the order of their names, and finds a factory for exactly the
kinds that it lists. That the order is strict is not the sorting's doing. It says that no
name has two factories, and this holds of whatever a builder was asked to do: a name that is
taken goes on the list of duplicates, and the factories stay as they are.

So nothing about the check at the end is used here, only what one call does to the names.
-/

namespace FaultGate

namespace Registry

variable {r : Registry} {kind : String}

theorem mem_kinds_iff : kind ∈ r.kinds ↔ r.contains kind = true := by
  rw [kinds, (List.mergeSort_perm _ _).mem_iff, contains, factory?, lookup_isSome_iff_mem_names]

theorem kinds_pairwise_le (r : Registry) : r.kinds.Pairwise (· ≤ ·) := by
  have hsorted : r.kinds.Pairwise fun a b => decide (a ≤ b) = true := by
    apply List.pairwise_mergeSort
    · intro a b c hab hbc
      exact decide_eq_true (String.le_trans (of_decide_eq_true hab) (of_decide_eq_true hbc))
    · intro a b
      simp only [Bool.or_eq_true, decide_eq_true_eq]
      exact String.le_total a b
  exact hsorted.imp of_decide_eq_true

theorem kinds_pairwise_lt (hnames : (r.factories.map Prod.fst).Nodup) :
    r.kinds.Pairwise (· < ·) := by
  have hnodup : r.kinds.Nodup := (List.mergeSort_perm _ _).nodup_iff.mpr hnames
  refine (r.kinds_pairwise_le.and hnodup).imp ?_
  rintro a b ⟨hle, hne⟩
  exact String.not_le.mp fun hge => hne (String.le_antisymm hle hge)

end Registry

namespace RegistryBuilder

theorem register_names_nodup {b : RegistryBuilder} (hb : (b.factories.map Prod.fst).Nodup)
    (kind : String) (factory : Factory) :
    ((b.register kind factory).factories.map Prod.fst).Nodup := by
  rw [register]
  split
  · exact hb
  · rename_i hnew
    rw [lookup_isSome_iff_mem_names] at hnew
    rw [List.map_append, List.map_singleton, List.nodup_append]
    refine ⟨hb, List.nodup_singleton kind, ?_⟩
    rintro own hown _ hlast rfl
    have hlast : own = kind := List.mem_singleton.mp hlast
    exact hnew (hlast ▸ hown)

theorem ofCalls_names_nodup (calls : List RegistryCall) :
    ((ofCalls calls).factories.map Prod.fst).Nodup := by
  induction calls using List.reverseRecOn with
  | nil => decide
  | append_singleton calls c ih =>
      rw [ofCalls_snoc]
      cases c with
      | register kind factory => exact register_names_nodup ih kind factory
      | declare kind code status => exact register_names_nodup ih kind _
      | bind role kind => exact ih

section Build

variable {calls : List RegistryCall} {reg : Registry} {events : List Log.Event}

theorem contains_of_build (h : (ofCalls calls).build = (.ok reg, events)) {kind : String} :
    reg.contains kind = true ↔ Taken calls kind := by
  obtain ⟨rfl, _, _⟩ := build_eq_ok h
  exact taken_iff.symm

theorem names_nodup_of_build (h : (ofCalls calls).build = (.ok reg, events)) :
    (reg.factories.map Prod.fst).Nodup := by
  obtain ⟨rfl, _, _⟩ := build_eq_ok h
  exact ofCalls_names_nodup calls

end Build

end RegistryBuilder

namespace Settings.Handler

variable {h : Handler} {reg : Registry} {events : List Log.Event}

theorem hasStatus_of_buildRegistry (hr : h.buildRegistry = (.ok reg, events)) :
    ∀ d ∈ h.faults, d.HasStatus := by
  rcases firstWrong_or_noneWrong StatusWrong h.faults with ⟨before, d, hd⟩ | hnone
  · rw [buildRegistry_of_wrong_status hd] at hr
    cases hr
  · exact noneWrong_status_iff.mp hnone

theorem contains_of_buildRegistry (hr : h.buildRegistry = (.ok reg, events)) (kind : String) :
    reg.contains kind = true ↔ Known h.faults kind := by
  rw [RegistryBuilder.contains_of_build (build_of_buildRegistry hr),
    ← taken_iff_known (hasStatus_of_buildRegistry hr), RegistryBuilder.Taken,
    registrations_calls, RegistryBuilder.Taken]

/-- The kinds of a registry that settings describe: in strict order, and no others than
those that are built in or declared. -/
theorem kinds_of_buildRegistry (hr : h.buildRegistry = (.ok reg, events)) :
    reg.kinds.Pairwise (· < ·) ∧ ∀ kind, kind ∈ reg.kinds ↔ Known h.faults kind := by
  refine ⟨?_, fun kind => Registry.mem_kinds_iff.trans (contains_of_buildRegistry hr kind)⟩
  exact Registry.kinds_pairwise_lt
    (RegistryBuilder.names_nodup_of_build (build_of_buildRegistry hr))

end Settings.Handler

end FaultGate
