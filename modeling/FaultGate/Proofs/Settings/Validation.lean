import FaultGate.Proofs.FirstWrong
import FaultGate.Settings.File
import Mathlib.Logic.Basic

/-!
# What the check for plausibility says of settings

The check goes along the declared faults with a set of the names that it has seen, and
leaves as soon as something is wrong. Four things can be wrong with a declaration, and
the last of them, that its name came before, is the only one for which the set is
there. So the set has to be told in terms of the declarations that were passed, and this
is all that the induction carries: a check of two lists in a row is a check of the first
list, and then of the second one with the names of the first among those seen.

From there on it is known what is wrong with a declaration after those before it, and
the rest is about the first entry that is wrong. The name of the application and the
scope come before all declarations.
-/

namespace FaultGate

theorem beginsWith_eq_true_iff {path start : String} :
    beginsWith path start = true ↔ ∃ rest, path = start ++ rest := by
  rw [beginsWith, List.isPrefixOf_iff_prefix]
  constructor
  · rintro ⟨rest, h⟩
    refine ⟨String.ofList rest, String.toList_inj.mp ?_⟩
    rw [String.toList_append, String.toList_ofList, h]
  · rintro ⟨rest, rfl⟩
    exact ⟨rest.toList, String.toList_append.symm⟩

namespace Settings

namespace FaultDefinition

/-- Something is wrong with a declaration that comes after others. -/
def Unfit (before : List FaultDefinition) (d : FaultDefinition) : Prop :=
  d.name = "" ∨ d.code = "" ∨ ¬ (100 ≤ d.status.toNat ∧ d.status.toNat ≤ 599) ∨
    ∃ other ∈ before, other.name = d.name

/-- What is complained of in a declaration that comes after others: the first thing that is
wrong with it, in the order of name, code, status and repetition. -/
inductive Complaint (before : List FaultDefinition) (d : FaultDefinition) : Violation → Prop
  | noName (name : d.name = "") : Complaint before d .noName
  | noCode (name : d.name ≠ "") (code : d.code = "") : Complaint before d (.noCode d.name)
  | statusOutOfRange (name : d.name ≠ "") (code : d.code ≠ "")
    (status : ¬ (100 ≤ d.status.toNat ∧ d.status.toNat ≤ 599)) :
    Complaint before d (.statusOutOfRange d.name)
  | repeated (name : d.name ≠ "") (code : d.code ≠ "")
    (status : 100 ≤ d.status.toNat ∧ d.status.toNat ≤ 599)
    (again : ∃ other ∈ before, other.name = d.name) : Complaint before d (.repeated d.name)

/-- The names that were seen before, the last one first. -/
def namesSeen (before : List FaultDefinition) : List String :=
  (before.map (·.name)).reverse

section

variable {before : List FaultDefinition} {d : FaultDefinition} {v : Violation}

theorem mem_namesSeen {name : String} :
    name ∈ namesSeen before ↔ ∃ other ∈ before, other.name = name := by
  rw [namesSeen, List.mem_reverse, List.mem_map]

theorem violation?_eq_some_iff :
    d.violation? (namesSeen before) = some v ↔ Complaint before d v := by
  rw [violation?]
  simp only [String.isEmpty_iff, Bool.not_eq_true', Bool.and_eq_false_iff, decide_eq_false_iff_not,
    ← not_and_or, List.contains_iff_mem, mem_namesSeen]
  constructor
  · intro h
    split_ifs at h with hname hcode hstatus hagain
    · injection h with h
      exact h ▸ .noName hname
    · injection h with h
      exact h ▸ .noCode hname hcode
    · injection h with h
      exact h ▸ .repeated hname hcode hstatus hagain
    · injection h with h
      exact h ▸ .statusOutOfRange hname hcode hstatus
  · intro h
    cases h with
    | noName hname => rw [if_pos hname]
    | noCode hname hcode => rw [if_neg hname, if_pos hcode]
    | statusOutOfRange hname hcode hstatus =>
        rw [if_neg hname, if_neg hcode, if_pos hstatus]
    | repeated hname hcode hstatus hagain =>
        rw [if_neg hname, if_neg hcode, if_neg (not_not_intro hstatus), if_pos hagain]

theorem exists_complaint_iff : (∃ v, Complaint before d v) ↔ Unfit before d := by
  constructor
  · rintro ⟨v, hv⟩
    cases hv with
    | noName hname => exact Or.inl hname
    | noCode _ hcode => exact Or.inr (Or.inl hcode)
    | statusOutOfRange _ _ hstatus => exact Or.inr (Or.inr (Or.inl hstatus))
    | repeated _ _ _ hagain => exact Or.inr (Or.inr (Or.inr hagain))
  · intro h
    by_cases hname : d.name = ""
    · exact ⟨_, .noName hname⟩
    by_cases hcode : d.code = ""
    · exact ⟨_, .noCode hname hcode⟩
    by_cases hstatus : 100 ≤ d.status.toNat ∧ d.status.toNat ≤ 599
    · refine ⟨_, .repeated hname hcode hstatus ?_⟩
      rcases h with h | h | h | h
      · exact absurd h hname
      · exact absurd h hcode
      · exact absurd hstatus h
      · exact h
    · exact ⟨_, .statusOutOfRange hname hcode hstatus⟩

theorem violation?_eq_none_iff :
    d.violation? (namesSeen before) = none ↔ ¬ Unfit before d := by
  rw [← exists_complaint_iff, not_exists, Option.eq_none_iff_forall_ne_some]
  exact forall_congr' fun v => not_congr violation?_eq_some_iff

end

end FaultDefinition

open FaultDefinition (Unfit namesSeen)

/-! ## All declarations -/

section Faults

variable {faults before : List FaultDefinition} {d : FaultDefinition} {v : Violation}

theorem firstViolation?_append (before rest : List FaultDefinition) :
    ∀ seen, firstViolation? seen (before ++ rest) =
      (firstViolation? seen before).or (firstViolation? (namesSeen before ++ seen) rest) := by
  induction before with
  | nil => exact fun _ => rfl
  | cons d before ih =>
      intro seen
      rw [List.cons_append, firstViolation?, firstViolation?]
      cases d.violation? seen with
      | some v => rfl
      | none =>
          simp only [ih, namesSeen, List.map_cons, List.reverse_cons, List.append_assoc,
            List.cons_append, List.nil_append]

/-- A declaration after those that were passed. -/
theorem firstViolation?_cons (before after : List FaultDefinition) (d : FaultDefinition) :
    firstViolation? [] (before ++ d :: after) =
      (firstViolation? [] before).or
        ((d.violation? (namesSeen before)).or
          (firstViolation? (d.name :: namesSeen before) after)) := by
  rw [firstViolation?_append, List.append_nil, firstViolation?]
  cases d.violation? (namesSeen before) <;> rfl

theorem firstViolation?_eq_none_iff :
    firstViolation? [] faults = none ↔ NoneWrong Unfit faults := by
  induction faults using List.reverseRecOn with
  | nil => exact iff_of_true rfl noneWrong_nil
  | append_singleton faults d ih =>
      rw [firstViolation?_cons, firstViolation?, Option.or_none, Option.or_eq_none_iff, ih,
        FaultDefinition.violation?_eq_none_iff, noneWrong_snoc]

theorem firstViolation?_of_firstWrong (hd : FirstWrong Unfit faults before d)
    (hv : d.Complaint before v) : firstViolation? [] faults = some v := by
  obtain ⟨⟨after, rfl⟩, _, hbefore⟩ := hd
  rw [firstViolation?_cons, firstViolation?_eq_none_iff.mpr hbefore,
    FaultDefinition.violation?_eq_some_iff.mpr hv]
  rfl

end Faults

namespace Handler

/-- The application has a name, the scope begins with a slash, and nothing is wrong with any
of the declared faults. -/
structure Fit (h : Handler) : Prop where
  named : h.app.name ≠ ""
  rooted : ∃ rest, h.scope = "/" ++ rest
  faults : NoneWrong Unfit h.faults

/-- What is complained of in settings: the name of the application, or else the scope, or
else the first declaration with which something is wrong. -/
inductive Complaint (h : Handler) : Violation → Prop
  | noAppName (name : h.app.name = "") : Complaint h .noAppName
  | scopeNotRooted (name : h.app.name ≠ "") (scope : ¬ ∃ rest, h.scope = "/" ++ rest) :
    Complaint h .scopeNotRooted
  | fault {before : List FaultDefinition} {d : FaultDefinition} {v : Violation}
    (name : h.app.name ≠ "") (scope : ∃ rest, h.scope = "/" ++ rest)
    (first : FirstWrong Unfit h.faults before d) (complaint : d.Complaint before v) :
    Complaint h v

variable {h : Handler} {v : Violation}

theorem not_rooted_iff :
    (!beginsWith h.scope "/") = true ↔ ¬ ∃ rest, h.scope = "/" ++ rest := by
  rw [Bool.not_eq_true', ← Bool.not_eq_true, beginsWith_eq_true_iff]

theorem violation?_of_rooted (hname : h.app.name ≠ "") (hscope : ∃ rest, h.scope = "/" ++ rest) :
    h.violation? = firstViolation? [] h.faults := by
  rw [violation?, if_neg fun hempty => hname (String.isEmpty_iff.mp hempty),
    if_neg fun hnot => not_rooted_iff.mp hnot hscope]

theorem violation?_of_not_rooted (hname : h.app.name ≠ "")
    (hscope : ¬ ∃ rest, h.scope = "/" ++ rest) : h.violation? = some .scopeNotRooted := by
  rw [violation?, if_neg fun hempty => hname (String.isEmpty_iff.mp hempty),
    if_pos (not_rooted_iff.mpr hscope)]

theorem violation?_of_no_name (hname : h.app.name = "") : h.violation? = some .noAppName := by
  rw [violation?, if_pos (String.isEmpty_iff.mpr hname)]

theorem violation?_of_complaint (hv : h.Complaint v) : h.violation? = some v := by
  cases hv with
  | noAppName hname => exact violation?_of_no_name hname
  | scopeNotRooted hname hscope => exact violation?_of_not_rooted hname hscope
  | fault hname hscope hd hcomplaint =>
      rw [violation?_of_rooted hname hscope]
      exact firstViolation?_of_firstWrong hd hcomplaint

theorem violation?_of_fit (hf : h.Fit) : h.violation? = none := by
  rw [violation?_of_rooted hf.named hf.rooted]
  exact firstViolation?_eq_none_iff.mpr hf.faults

/-- Whatever is not fit is complained of. -/
theorem complaint_or_fit (h : Handler) : (∃ v, h.Complaint v) ∨ h.Fit := by
  by_cases hname : h.app.name = ""
  · exact Or.inl ⟨_, .noAppName hname⟩
  by_cases hscope : ∃ rest, h.scope = "/" ++ rest
  · rcases firstWrong_or_noneWrong Unfit h.faults with ⟨before, d, hd⟩ | hnone
    · obtain ⟨v, hv⟩ := FaultDefinition.exists_complaint_iff.mpr hd.wrong
      exact Or.inl ⟨v, .fault hname hscope hd hv⟩
    · exact Or.inr ⟨hname, hscope, hnone⟩
  · exact Or.inl ⟨_, .scopeNotRooted hname hscope⟩

theorem violation?_eq_none_iff : h.violation? = none ↔ h.Fit := by
  refine ⟨fun hnone => ?_, violation?_of_fit⟩
  rcases h.complaint_or_fit with ⟨v, hv⟩ | hf
  · rw [violation?_of_complaint hv] at hnone
    cases hnone
  · exact hf

theorem violation?_eq_some_iff : h.violation? = some v ↔ h.Complaint v := by
  refine ⟨fun hsome => ?_, violation?_of_complaint⟩
  rcases h.complaint_or_fit with ⟨own, hown⟩ | hf
  · rw [violation?_of_complaint hown] at hsome
    injection hsome with hsome
    exact hsome ▸ hown
  · rw [violation?_of_fit hf] at hsome
    cases hsome

theorem validate_eq_ok_iff : h.validate = .ok () ↔ h.Fit := by
  rw [← violation?_eq_none_iff, validate]
  cases h.violation? with
  | none => simp
  | some v => simp

theorem validate_eq_error_iff {e : Error} :
    h.validate = .error e ↔ ∃ v, e = .violation v ∧ h.Complaint v := by
  simp only [← violation?_eq_some_iff, validate]
  cases h.violation? with
  | none => simp
  | some v => simp [eq_comm]

/-- The check accepts settings exactly when they are fit, and what it tells of any
others is the first thing that is wrong with them. -/
theorem validate_told_by_entries (h : Handler) :
    (h.validate = .ok () ↔ h.Fit) ∧
    ∀ e, h.validate = .error e ↔ ∃ v, e = .violation v ∧ h.Complaint v :=
  ⟨validate_eq_ok_iff, fun _ => validate_eq_error_iff⟩

/-- A name that came before is told of only where nothing else is wrong with the declaration,
and a declaration without a code only where none is wrong before it. -/
example :
    let declared := fun faults : List FaultDefinition =>
      violation? ⟨⟨"shop", "dev", false⟩, "/api", .none, faults⟩
    declared [⟨"A", "SYS_A", 400⟩, ⟨"A", "SYS_A", 700⟩, ⟨"B", "", 400⟩] =
        some (.statusOutOfRange "A") ∧
      declared [⟨"A", "SYS_A", 400⟩, ⟨"A", "SYS_A", 599⟩, ⟨"B", "", 400⟩] =
        some (.repeated "A") := by
  decide

end Handler

end Settings

end FaultGate
