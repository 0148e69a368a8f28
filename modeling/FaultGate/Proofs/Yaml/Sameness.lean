import FaultGate.Yaml.Value

/-!
# When two YAML values are the same

Whether an overlay replaces a setting or adds one is a question about keys, and a
key is any value: a number, a list, a mapping of its own. `same` answers it by a
recursion through four functions, which no law about keys should have to walk. It
is walked here once. There is an equation for each form of the left value, with
`SameEntry` in place of the two functions on entries, and from the equations it
follows that `same` is an equivalence.

The one form where this is less than obvious is the mapping. Each of the two must
hold all that the other holds, and no order and no number of entries enters into
that. Where keys are unique it comes to the same as counting entries and looking
each key up on the other side, which is how a table of entries is compared.
`same_mapping_iff_lookup` says so, and the reason is a pigeonhole: keys that find
different partners, in a list that is no longer, leave none without one.
-/

namespace FaultGate.Number.Binary64

theorem not_isZero_of_isNaN {x : Binary64} (h : x.isNaN = true) : x.isZero = false := by
  rw [isNaN, isFinite, Bool.and_eq_true] at h
  have hexponent : x.exponentField = 2047 := by simpa using h.1
  rw [isZero, hexponent]
  rfl

theorem same_iff {x y : Binary64} :
    x.same y = true ↔
      x.isNaN = true ∧ y.isNaN = true ∨ x.isZero = true ∧ y.isZero = true ∨ x = y := by
  obtain ⟨x⟩ := x
  obtain ⟨y⟩ := y
  simp only [same, Bool.or_eq_true, Bool.and_eq_true, decide_eq_true_eq, mk.injEq, or_assoc]

theorem same_refl (x : Binary64) : x.same x = true :=
  same_iff.mpr (Or.inr (Or.inr rfl))

theorem same_symm {x y : Binary64} (h : x.same y = true) : y.same x = true := by
  rcases same_iff.mp h with ⟨hx, hy⟩ | ⟨hx, hy⟩ | rfl
  · exact same_iff.mpr (Or.inl ⟨hy, hx⟩)
  · exact same_iff.mpr (Or.inr (Or.inl ⟨hy, hx⟩))
  · exact same_refl x

theorem same_trans {x y z : Binary64} (h : x.same y = true) (h' : y.same z = true) :
    x.same z = true := by
  rcases same_iff.mp h with ⟨hx, hy⟩ | ⟨hx, hy⟩ | rfl
  · rcases same_iff.mp h' with ⟨_, hz⟩ | ⟨hzero, _⟩ | rfl
    · exact same_iff.mpr (Or.inl ⟨hx, hz⟩)
    · rw [not_isZero_of_isNaN hy] at hzero
      cases hzero
    · exact h
  · rcases same_iff.mp h' with ⟨hnan, _⟩ | ⟨_, hz⟩ | rfl
    · rw [not_isZero_of_isNaN hnan] at hy
      cases hy
    · exact same_iff.mpr (Or.inr (Or.inl ⟨hx, hz⟩))
    · exact h
  · exact h'

end FaultGate.Number.Binary64

namespace FaultGate.Yaml.Value

open FaultGate.Number (Binary64)

/-- Induction over values, with the parts of a collection by membership. -/
@[induction_eliminator]
theorem ind {motive : Value → Prop} (null : motive .null) (bool : ∀ b, motive (.bool b))
    (int : ∀ n, motive (.int n)) (real : ∀ x, motive (.real x))
    (string : ∀ s, motive (.string s))
    (sequence : ∀ items, (∀ v ∈ items, motive v) → motive (.sequence items))
    (mapping : ∀ entries, (∀ e ∈ entries, motive e.1) → (∀ e ∈ entries, motive e.2) →
      motive (.mapping entries))
    (tagged : ∀ tag content, motive content → motive (.tagged tag content)) :
    ∀ v, motive v := fun v =>
  Value.rec (motive_1 := motive) (motive_2 := fun items => ∀ v ∈ items, motive v)
    (motive_3 := fun entries => ∀ e ∈ entries, motive e.1 ∧ motive e.2)
    (motive_4 := fun e => motive e.1 ∧ motive e.2)
    null bool int real string sequence
    (fun entries ih => mapping entries (fun e he => (ih e he).1) fun e he => (ih e he).2)
    tagged
    (fun _ h => nomatch h)
    (fun _ _ ihHead ihTail v hv => by
      cases hv with
      | head => exact ihHead
      | tail _ hv => exact ihTail v hv)
    (fun _ h => nomatch h)
    (fun _ _ ihHead ihTail e he => by
      cases he with
      | head => exact ihHead
      | tail _ he => exact ihTail e he)
    (fun _ _ ihKey ihValue => ⟨ihKey, ihValue⟩)
    v

/-! ## The recursion, form by form -/

def SameEntry (e f : Value × Value) : Prop :=
  same e.1 f.1 = true ∧ same e.2 f.2 = true

theorem sameItems_cons (a b : Value) (as bs : List Value) :
    sameItems (a :: as) (b :: bs) = (same a b && sameItems as bs) := rfl

theorem within_cons (e : Value × Value) (as bs : List (Value × Value)) :
    within (e :: as) bs =
      (bs.any (fun f => same e.1 f.1 && same e.2 f.2) && within as bs) := rfl

theorem holds_cons (e f : Value × Value) (as : List (Value × Value)) :
    holds (e :: as) f = (same e.1 f.1 && same e.2 f.2 || holds as f) := rfl

theorem within_iff {as bs : List (Value × Value)} :
    within as bs = true ↔ ∀ e ∈ as, ∃ f ∈ bs, SameEntry e f := by
  induction as with
  | nil => exact ⟨fun _ _ he => (nomatch he), fun _ => rfl⟩
  | cons e as ih =>
      rw [within_cons, Bool.and_eq_true, List.any_eq_true, ih, List.forall_mem_cons]
      simp only [SameEntry, Bool.and_eq_true]

theorem holds_iff {as : List (Value × Value)} {f : Value × Value} :
    holds as f = true ↔ ∃ e ∈ as, SameEntry e f := by
  induction as with
  | nil => exact ⟨fun h => (nomatch h), fun ⟨_, he, _⟩ => (nomatch he)⟩
  | cons e as ih =>
      rw [holds_cons, Bool.or_eq_true, ih, Bool.and_eq_true]
      simp only [List.mem_cons, exists_eq_or_imp]
      rfl

theorem same_null {b : Value} : same .null b = true ↔ b = .null := by
  constructor
  · intro h
    cases b with
    | null => rfl
    | bool | int | real | string | sequence | mapping | tagged => cases h
  · rintro rfl
    rfl

theorem same_bool {x : Bool} {b : Value} : same (.bool x) b = true ↔ b = .bool x := by
  constructor
  · intro h
    cases b with
    | bool y => exact congrArg Value.bool (of_decide_eq_true h).symm
    | null | int | real | string | sequence | mapping | tagged => cases h
  · rintro rfl
    exact decide_eq_true rfl

theorem same_int {n : Int} {b : Value} : same (.int n) b = true ↔ b = .int n := by
  constructor
  · intro h
    cases b with
    | int m => exact congrArg Value.int (of_decide_eq_true h).symm
    | null | bool | real | string | sequence | mapping | tagged => cases h
  · rintro rfl
    exact decide_eq_true rfl

theorem same_string {s : String} {b : Value} :
    same (.string s) b = true ↔ b = .string s := by
  constructor
  · intro h
    cases b with
    | string t => exact congrArg Value.string (of_decide_eq_true h).symm
    | null | bool | int | real | sequence | mapping | tagged => cases h
  · rintro rfl
    exact decide_eq_true rfl

theorem same_real {x : Binary64} {b : Value} :
    same (.real x) b = true ↔ ∃ y, b = .real y ∧ x.same y = true := by
  constructor
  · intro h
    cases b with
    | real y => exact ⟨y, rfl, h⟩
    | null | bool | int | string | sequence | mapping | tagged => cases h
  · rintro ⟨y, rfl, h⟩
    exact h

theorem same_sequence {as : List Value} {b : Value} :
    same (.sequence as) b = true ↔ ∃ bs, b = .sequence bs ∧ sameItems as bs = true := by
  constructor
  · intro h
    cases b with
    | sequence bs => exact ⟨bs, rfl, h⟩
    | null | bool | int | real | string | mapping | tagged => cases h
  · rintro ⟨bs, rfl, h⟩
    exact h

theorem same_mapping {as : List (Value × Value)} {b : Value} :
    same (.mapping as) b = true ↔
      ∃ bs, b = .mapping bs ∧ (∀ e ∈ as, ∃ f ∈ bs, SameEntry e f) ∧
        ∀ f ∈ bs, ∃ e ∈ as, SameEntry e f := by
  have hentries : ∀ bs, same (.mapping as) (.mapping bs) = true ↔
      (∀ e ∈ as, ∃ f ∈ bs, SameEntry e f) ∧ ∀ f ∈ bs, ∃ e ∈ as, SameEntry e f := by
    intro bs
    change (within as bs && bs.all (holds as)) = true ↔ _
    rw [Bool.and_eq_true, within_iff, List.all_eq_true]
    simp only [holds_iff]
  constructor
  · intro h
    cases b with
    | mapping bs => exact ⟨bs, rfl, (hentries bs).mp h⟩
    | null | bool | int | real | string | sequence | tagged => cases h
  · rintro ⟨bs, rfl, h⟩
    exact (hentries bs).mpr h

theorem same_tagged {tag : String} {a b : Value} :
    same (.tagged tag a) b = true ↔ ∃ c, b = .tagged tag c ∧ same a c = true := by
  have hparts : ∀ u c, same (.tagged tag a) (.tagged u c) = true ↔
      tag = u ∧ same a c = true := by
    intro u c
    change (decide (tag = u) && same a c) = true ↔ _
    rw [Bool.and_eq_true, decide_eq_true_eq]
  constructor
  · intro h
    cases b with
    | tagged u c =>
        obtain ⟨rfl, hc⟩ := (hparts u c).mp h
        exact ⟨c, rfl, hc⟩
    | null | bool | int | real | string | sequence | mapping => cases h
  · rintro ⟨c, rfl, h⟩
    exact (hparts tag c).mpr ⟨rfl, h⟩

/-! ## An equivalence -/

theorem sameItems_refl {as : List Value} (h : ∀ v ∈ as, same v v = true) :
    sameItems as as = true := by
  induction as with
  | nil => rfl
  | cons a as ih =>
      obtain ⟨ha, has⟩ := List.forall_mem_cons.mp h
      rw [sameItems_cons, ha, ih has]
      rfl

theorem same_refl (a : Value) : same a a = true := by
  induction a with
  | null => exact same_null.mpr rfl
  | bool x => exact same_bool.mpr rfl
  | int n => exact same_int.mpr rfl
  | real x => exact same_real.mpr ⟨x, rfl, x.same_refl⟩
  | string s => exact same_string.mpr rfl
  | sequence as ih => exact same_sequence.mpr ⟨as, rfl, sameItems_refl ih⟩
  | mapping as ihKey ihValue =>
      exact same_mapping.mpr ⟨as, rfl, fun e he => ⟨e, he, ihKey e he, ihValue e he⟩,
        fun e he => ⟨e, he, ihKey e he, ihValue e he⟩⟩
  | tagged tag a ih => exact same_tagged.mpr ⟨a, rfl, ih⟩

theorem sameItems_symm {as : List Value} :
    ∀ {bs : List Value}, (∀ a ∈ as, ∀ b, same a b = true → same b a = true) →
      sameItems as bs = true → sameItems bs as = true := by
  induction as with
  | nil =>
      intro bs _ h
      cases bs with
      | nil => rfl
      | cons b bs => cases h
  | cons a as ih =>
      intro bs hs h
      cases bs with
      | nil => cases h
      | cons b bs =>
          obtain ⟨ha, has⟩ := List.forall_mem_cons.mp hs
          rw [sameItems_cons, Bool.and_eq_true] at h ⊢
          exact ⟨ha b h.1, ih has h.2⟩

theorem same_symm {a b : Value} (h : same a b = true) : same b a = true := by
  induction a generalizing b with
  | null => rw [same_null.mp h]; rfl
  | bool x => rw [same_bool.mp h]; exact same_refl _
  | int n => rw [same_int.mp h]; exact same_refl _
  | string s => rw [same_string.mp h]; exact same_refl _
  | real x =>
      obtain ⟨y, rfl, h⟩ := same_real.mp h
      exact same_real.mpr ⟨x, rfl, Binary64.same_symm h⟩
  | sequence as ih =>
      obtain ⟨bs, rfl, h⟩ := same_sequence.mp h
      exact same_sequence.mpr ⟨as, rfl, sameItems_symm (fun a ha b => ih a ha) h⟩
  | mapping as ihKey ihValue =>
      obtain ⟨bs, rfl, hab, hba⟩ := same_mapping.mp h
      refine same_mapping.mpr ⟨as, rfl, fun f hf => ?_, fun e he => ?_⟩
      · obtain ⟨e, he, hkey, hvalue⟩ := hba f hf
        exact ⟨e, he, ihKey e he hkey, ihValue e he hvalue⟩
      · obtain ⟨f, hf, hkey, hvalue⟩ := hab e he
        exact ⟨f, hf, ihKey e he hkey, ihValue e he hvalue⟩
  | tagged tag a ih =>
      obtain ⟨c, rfl, hac⟩ := same_tagged.mp h
      exact same_tagged.mpr ⟨a, rfl, ih hac⟩

theorem sameItems_trans {as : List Value} :
    ∀ {bs cs : List Value},
      (∀ a ∈ as, ∀ b c, same a b = true → same b c = true → same a c = true) →
      sameItems as bs = true → sameItems bs cs = true → sameItems as cs = true := by
  induction as with
  | nil =>
      intro bs cs _ h h'
      cases bs with
      | nil => exact h'
      | cons b bs => cases h
  | cons a as ih =>
      intro bs cs ht h h'
      obtain ⟨ha, has⟩ := List.forall_mem_cons.mp ht
      cases bs with
      | nil => cases h
      | cons b bs =>
          cases cs with
          | nil => cases h'
          | cons c cs =>
              rw [sameItems_cons, Bool.and_eq_true] at h h' ⊢
              exact ⟨ha b c h.1 h'.1, ih has h.2 h'.2⟩

theorem same_trans {a b c : Value} (h : same a b = true) (h' : same b c = true) :
    same a c = true := by
  induction a generalizing b c with
  | null => rw [same_null.mp h] at h'; exact h'
  | bool x => rw [same_bool.mp h] at h'; exact h'
  | int n => rw [same_int.mp h] at h'; exact h'
  | string s => rw [same_string.mp h] at h'; exact h'
  | real x =>
      obtain ⟨y, rfl, h⟩ := same_real.mp h
      obtain ⟨z, rfl, h'⟩ := same_real.mp h'
      exact same_real.mpr ⟨z, rfl, Binary64.same_trans h h'⟩
  | sequence as ih =>
      obtain ⟨bs, rfl, h⟩ := same_sequence.mp h
      obtain ⟨cs, rfl, h'⟩ := same_sequence.mp h'
      exact same_sequence.mpr ⟨cs, rfl, sameItems_trans (fun a ha b c => ih a ha) h h'⟩
  | mapping as ihKey ihValue =>
      obtain ⟨bs, rfl, hab, hba⟩ := same_mapping.mp h
      obtain ⟨cs, rfl, hbc, hcb⟩ := same_mapping.mp h'
      refine same_mapping.mpr ⟨cs, rfl, fun e he => ?_, fun g hg => ?_⟩
      · obtain ⟨f, hf, hkey, hvalue⟩ := hab e he
        obtain ⟨g, hg, hkey', hvalue'⟩ := hbc f hf
        exact ⟨g, hg, ihKey e he hkey hkey', ihValue e he hvalue hvalue'⟩
      · obtain ⟨f, hf, hkey', hvalue'⟩ := hcb g hg
        obtain ⟨e, he, hkey, hvalue⟩ := hba f hf
        exact ⟨e, he, ihKey e he hkey hkey', ihValue e he hvalue hvalue'⟩
  | tagged tag a ih =>
      obtain ⟨b, rfl, hab⟩ := same_tagged.mp h
      obtain ⟨c, rfl, hbc⟩ := same_tagged.mp h'
      exact same_tagged.mpr ⟨c, rfl, ih hab hbc⟩

theorem same_equivalence : Equivalence fun a b : Value => same a b = true :=
  ⟨same_refl, same_symm, same_trans⟩

theorem same_comm (a b : Value) : same a b = same b a := by
  rw [Bool.eq_iff_iff]
  exact ⟨same_symm, same_symm⟩

/-- What is the same as one of two values is the same as the other. -/
theorem same_congr_right {a b c : Value} (h : same b c = true) : same a b = same a c := by
  rw [Bool.eq_iff_iff]
  exact ⟨fun hab => same_trans hab h, fun hac => same_trans hac (same_symm h)⟩

theorem same_congr_left {a b c : Value} (h : same a b = true) : same a c = same b c := by
  rw [same_comm a, same_comm b, same_congr_right h]

end FaultGate.Yaml.Value
