import Mathlib.Data.List.Induction

/-!
# The first entry that is wrong

Whatever is checked here is checked from left to right, and the first entry that
is wrong is the one that is told. Whether an entry is wrong may depend on those
before it, as it does where a name must not come again. So the judgement is of an
entry and of what stands in front of it, and it is never of what comes after.

This is why the inductions take the last entry off: everything before it is judged
as it was.
-/

namespace FaultGate

/-- No entry is wrong, judged after those before it. -/
def NoneWrong {α : Type} (bad : List α → α → Prop) (xs : List α) : Prop :=
  ∀ before x after, xs = before ++ x :: after → ¬ bad before x

/-- The entry after these is wrong, and it is the first one. -/
structure FirstWrong {α : Type} (bad : List α → α → Prop) (xs before : List α) (x : α) :
    Prop where
  split : ∃ after, xs = before ++ x :: after
  wrong : bad before x
  earlier : NoneWrong bad before

section

variable {α : Type} {bad : List α → α → Prop} {xs : List α} {x : α}

theorem noneWrong_nil : NoneWrong bad [] := by
  intro before x after heq
  exact absurd heq.symm (List.append_ne_nil_of_right_ne_nil _ (List.cons_ne_nil _ _))

theorem noneWrong_snoc : NoneWrong bad (xs ++ [x]) ↔ NoneWrong bad xs ∧ ¬ bad xs x := by
  constructor
  · intro h
    refine ⟨fun before own after heq => h before own (after ++ [x]) ?_, h xs x [] rfl⟩
    rw [heq, List.append_assoc, List.cons_append]
  · intro h before own after heq
    -- either the entry in question is the last one or the last one comes after it
    rcases List.eq_nil_or_concat after with rfl | ⟨after, last, rfl⟩
    · obtain ⟨rfl, hlast⟩ := List.append_inj' heq rfl
      injection hlast with hlast
      rw [← hlast]
      exact h.2
    · rw [List.concat_eq_append, ← List.cons_append, ← List.append_assoc] at heq
      exact h.1 before own after (List.append_inj' heq rfl).1

theorem firstWrong_or_noneWrong (bad : List α → α → Prop) (xs : List α) :
    (∃ before x, FirstWrong bad xs before x) ∨ NoneWrong bad xs := by
  induction xs using List.reverseRecOn with
  | nil => exact .inr noneWrong_nil
  | append_singleton xs last ih =>
      rcases ih with ⟨before, x, ⟨after, rfl⟩, hwrong, hbefore⟩ | hxs
      · refine .inl ⟨before, x, ⟨after ++ [last], ?_⟩, hwrong, hbefore⟩
        rw [List.append_assoc, List.cons_append]
      · by_cases hlast : bad xs last
        · exact .inl ⟨xs, last, ⟨[], rfl⟩, hlast, hxs⟩
        · exact .inr (noneWrong_snoc.mpr ⟨hxs, hlast⟩)

theorem NoneWrong.mono {other : List α → α → Prop} (h : NoneWrong bad xs)
    (hle : ∀ before x, other before x → bad before x) : NoneWrong other xs :=
  fun before x after heq hx => h before x after heq (hle before x hx)

/-- Where no entry occurs twice, the first wrong one tells which entries it comes after. -/
theorem FirstWrong.before_eq [DecidableEq α] {before : List α} (h : FirstWrong bad xs before x)
    (hn : xs.Nodup) : before = xs.takeWhile (· ≠ x) := by
  obtain ⟨after, rfl⟩ := h.split
  have hbefore : ∀ y ∈ before, decide (y ≠ x) = true := fun y hy =>
    decide_eq_true ((List.nodup_append.mp hn).2.2 y hy x List.mem_cons_self)
  rw [List.takeWhile_append_of_pos hbefore, List.takeWhile_cons_of_neg (by simp),
    List.append_nil]

/-- Where it is wrong to come again, with something that came before. -/
theorem noneWrong_again_iff {β : Type} {f : α → β} :
    NoneWrong (fun before x => ∃ other ∈ before, f other = f x) xs ↔ (xs.map f).Nodup := by
  induction xs using List.reverseRecOn with
  | nil => exact iff_of_true noneWrong_nil List.nodup_nil
  | append_singleton xs x ih =>
      rw [noneWrong_snoc, ih, List.map_append, List.map_singleton, List.nodup_append]
      simp

/-- Where it does not matter what comes before. -/
theorem noneWrong_iff_forall {p : α → Prop} {xs : List α} :
    NoneWrong (fun _ x => p x) xs ↔ ∀ x ∈ xs, ¬ p x := by
  constructor
  · intro h x hx
    obtain ⟨before, after, heq⟩ := List.append_of_mem hx
    exact h before x after heq
  · intro h before x after heq
    exact h x (heq ▸ List.mem_append_right before List.mem_cons_self)

end

end FaultGate
