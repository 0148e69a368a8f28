import Mathlib.Data.List.DropRight
import FaultGate.Json.Skip
import FaultGate.Proofs.Json.Grammar

/-!
# Passing over a value goes past that value

A value that nobody wants is passed over by a machine that remembers what is
open around it, while the reader of values calls itself for what is nested.
The two have nothing in common but the leaves of the grammar, and the machine
accepts more: deeper nesting, greater numbers, strings that hold no character.
This file proves the half that its users rely on: where a value is derived, the
machine goes past it and stops where the derivation stops.

`Passes` is what makes the steps of the machine compose. Each rule of the
grammar becomes a few steps, and the induction over the derivation joins them.
It also has to say how many steps there are, for the machine runs on fuel:
twice the length of what is passed over is always enough, because a step takes
a piece of text, except for the one that ends the value.
-/

namespace FaultGate.Json

open FaultGate.Text (Pieces)

/-! ## Blanks -/

theorem length_skipBlank_le (input : Pieces) :
    (skipBlank input).length ≤ input.length :=
  List.length_dropWhile_le isBlank input

theorem length_lt_of_skipBlank {input rest : Pieces} {p : Option Char}
    (h : skipBlank input = p :: rest) : rest.length < input.length := by
  have hle := length_skipBlank_le input
  rw [h, List.length_cons] at hle
  omega

theorem skipBlank_skipBlank (input : Pieces) :
    skipBlank (skipBlank input) = skipBlank input :=
  List.dropWhile_idempotent isBlank input

/-! ## Strings and names -/

theorem skipString?_code {a b c d : Option Char} {n : Nat} (rest : Pieces)
    (h : code? a b c d = some n) :
    skipString? (some '\\' :: some 'u' :: a :: b :: c :: d :: rest) =
      skipString? rest := by
  rw [skipString?.eq_def]
  simp only [h]
  rfl

theorem skipString?_letter {letter c : Char} (rest : Pieces)
    (h : escaped? letter = some c) :
    skipString? (some '\\' :: some letter :: rest) = skipString? rest := by
  have hu : letter ≠ 'u' := by
    rintro rfl
    cases h
  rw [skipString?.eq_def]
  simp only [if_neg (show ¬ '\\' = '"' by decide), if_true]
  split
  · rename_i heq
    injection heq with heq _
    injection heq with heq
    exact absurd heq hu
  · rename_i heq
    injection heq with heq hrest
    injection heq with heq
    subst heq hrest
    rw [h]
    rfl
  · rename_i hno
    exact absurd rfl (hno letter rest)

theorem skipString?_char {c : Char} (rest : Pieces) (hq : ¬c = '"')
    (hb : ¬c = '\\') (hc : ¬c.toNat < 0x20) :
    skipString? (some c :: rest) = skipString? rest := by
  rw [skipString?.eq_def]
  simp only [if_neg hq, if_neg hb, if_neg hc]

/-- A string that can be read can be passed over, and its closing quote is
taken at least. -/
theorem skipString?_of_stringOnto {done : List Char} {input rest : Pieces}
    {s : String} (h : stringOnto done input = some (s, rest)) :
    skipString? input = some rest ∧ rest.length < input.length := by
  fun_induction stringOnto done input with
  | case1 | case2 | case4 | case5 | case7 | case8 | case11 | case12 | case13 =>
      cases h
  | case3 done rest' =>
      injection h with h
      injection h with _ h
      subst h
      refine ⟨?_, Nat.lt_succ_self _⟩
      rw [skipString?.eq_def]
      rfl
  | case6 done a b c d n hn _ _ e f g h' rest' x hx _ ih =>
      obtain ⟨m, hm, _⟩ := Option.bind_eq_some_iff.mp hx
      obtain ⟨hskip, hlen⟩ := ih h
      refine ⟨by rw [skipString?_code _ hn, skipString?_code _ hm, hskip], ?_⟩
      simp only [List.length_cons]
      omega
  | case9 done a b c d rest' n hn _ _ _ ih =>
      obtain ⟨hskip, hlen⟩ := ih h
      refine ⟨by rw [skipString?_code _ hn, hskip], ?_⟩
      simp only [List.length_cons]
      omega
  | case10 done letter rest' _ x hx _ ih =>
      obtain ⟨hskip, hlen⟩ := ih h
      refine ⟨by rw [skipString?_letter _ hx, hskip], ?_⟩
      simp only [List.length_cons]
      omega
  | case14 done first rest' hq hb hc ih =>
      obtain ⟨hskip, hlen⟩ := ih h
      refine ⟨by rw [skipString?_char _ hq hb hc, hskip], ?_⟩
      simp only [List.length_cons]
      omega

theorem skipKey?_of_key? {key : String} {input rest : Pieces}
    (h : key? input = some (key, rest)) :
    skipKey? input = some rest ∧ rest.length ≤ input.length := by
  rw [key?] at h
  split at h
  · cases h
  · rename_i name after hname
    obtain ⟨rest', hcolon, heq⟩ := Option.map_eq_some_iff.mp h
    injection heq with _ heq
    subst heq
    rw [name?.eq_def] at hname
    split at hname
    · rename_i inner
      obtain ⟨hskip, hlen⟩ := skipString?_of_stringOnto hname
      have hshort : rest'.length ≤ after.length := by
        rw [colon?] at hcolon
        split at hcolon
        · rename_i tail hblank
          injection hcolon with hcolon
          subst hcolon
          have := length_lt_of_skipBlank hblank
          omega
        · cases hcolon
      refine ⟨?_, ?_⟩
      · rw [skipKey?.eq_def]
        simp only [hskip, hcolon]
      · rw [List.length_cons]
        omega
    · cases hname

/-! ## Numbers -/

theorem length_digits_le (input : Pieces) :
    (digits input).2.length ≤ input.length :=
  List.length_dropWhile_le _ input

theorem digits_head {input : Pieces} (h : (digits input).1 ≠ []) :
    ∃ c tail, input = some c :: tail ∧ (digit? (some c)).isSome = true ∧
      (digits input).2.length ≤ tail.length := by
  cases input with
  | nil => exact absurd rfl h
  | cons p tail =>
      cases hp : (digit? p).isSome with
      | false =>
          refine absurd ?_ h
          simp only [digits, List.takeWhile_cons, hp, Bool.false_eq_true,
            if_false, List.filterMap_nil]
      | true =>
          cases p with
          | none => cases hp
          | some c =>
              refine ⟨c, tail, rfl, hp, ?_⟩
              simp only [digits, List.dropWhile_cons, hp, if_true]
              exact List.length_dropWhile_le _ tail

theorem fraction?_length_le {input rest : Pieces} {ds : List Nat}
    (h : fraction? input = some (ds, rest)) : rest.length ≤ input.length := by
  rw [fraction?.eq_def] at h
  split at h
  · rename_i tail
    have hle := length_digits_le tail
    split at h
    · cases h
    · injection h with h
      rw [h] at hle
      rw [List.length_cons]
      simp only [] at hle
      omega
  · injection h with h
    injection h with _ h
    rw [h]

/-- Past a sign there is no more than there was before it. -/
theorem length_signless_le (signed : Bool) (input : Pieces) :
    (if signed then input.drop 1 else input).length ≤ input.length := by
  split
  · rw [List.length_drop]
    omega
  · exact Nat.le_refl _

theorem exponent?_length_le {input rest : Pieces}
    {e : Option (Bool × List Nat)} (h : exponent? input = some (e, rest)) :
    rest.length ≤ input.length := by
  rw [exponent?.eq_def] at h
  split at h
  · rename_i mark tail
    split at h
    · simp only [] at h
      generalize (decide (tail.head? = some (some '-')) ||
        decide (tail.head? = some (some '+'))) = signed at h
      have hsign := length_signless_le signed tail
      have hle := length_digits_le (if signed then tail.drop 1 else tail)
      split at h
      · cases h
      · rename_i found after _ heq
        injection h with h
        injection h with _ h
        subst h
        rw [heq] at hle
        rw [List.length_cons]
        simp only [] at hle
        omega
    · injection h with h
      injection h with _ h
      rw [h]
  · injection h with h
    injection h with _ h
    rw [h]

/-- A number begins with its sign or with a digit, and takes that at least. -/
theorem numeral?_head {input rest : Pieces} {n : Numeral}
    (h : numeral? input = some (n, rest)) :
    ∃ c tail, input = some c :: tail ∧
      (c = '-' ∨ (digit? (some c)).isSome = true) ∧
      rest.length ≤ tail.length := by
  rw [numeral?] at h
  simp only [] at h
  generalize hsign : (if input.head? = some (some '-') then input.drop 1
    else input) = unsigned at h
  split at h
  · cases h
  · rename_i hwhole
    obtain ⟨⟨fraction, afterFraction⟩, hf, h⟩ := Option.bind_eq_some_iff.mp h
    obtain ⟨⟨exponent, afterExponent⟩, he, h⟩ := Option.bind_eq_some_iff.mp h
    injection h with h
    injection h with _ h
    simp only [] at h hf he
    subst h
    have hfl := fraction?_length_le hf
    have hel := exponent?_length_le he
    have hne : (digits unsigned).1 ≠ [] := by
      intro hnil
      rw [hnil] at hwhole
      exact hwhole rfl
    obtain ⟨c, tail, hdigit, hc, hlen⟩ := digits_head hne
    split at hsign
    · rename_i hminus
      cases input with
      | nil => cases hminus
      | cons first others =>
          injection hminus with hfirst
          rw [List.drop_succ_cons, List.drop_zero] at hsign
          refine ⟨'-', others, by rw [hfirst], Or.inl rfl, ?_⟩
          rw [hsign, hdigit, List.length_cons]
          omega
    · exact ⟨c, tail, by rw [hsign, hdigit], Or.inr hc, by omega⟩

/-- Whatever else a text begins with, it is no number. -/
theorem numeral?_not_head {input rest : Pieces} {n : Numeral}
    (h : numeral? input = some (n, rest)) {d : Char} (hdigit : digit? (some d) = none)
    (hminus : d ≠ '-') (tail : Pieces) : input ≠ some d :: tail := by
  obtain ⟨c, others, rfl, hc, _⟩ := numeral?_head h
  intro heq
  injection heq with heq _
  injection heq with heq
  rw [heq, hdigit] at hc
  obtain hc | hc := hc
  · exact hminus hc
  · cases hc

/-! ## One step of the machine -/

section Step

variable {fuel : Nat} {outer : List Enclosure} {before input rest : Pieces}

theorem skipFrom?_scalar (hblank : skipBlank before = input)
    (harray : ∀ tail, input ≠ some '[' :: tail)
    (hobject : ∀ tail, input ≠ some '{' :: tail)
    (h : skipScalar? input = some rest) :
    skipFrom? (fuel + 1) .value outer before = skipFrom? fuel .after outer rest := by
  rw [skipFrom?.eq_def]
  simp only []
  rw [hblank]
  split
  · rename_i tail
    exact absurd rfl (harray tail)
  · rename_i tail
    exact absurd rfl (hobject tail)
  · rw [h]

theorem skipFrom?_emptyArray (hblank : skipBlank before = some '[' :: input)
    (hclose : skipBlank input = some ']' :: rest) :
    skipFrom? (fuel + 1) .value outer before = skipFrom? fuel .after outer rest := by
  rw [skipFrom?.eq_def]
  simp only [hblank, hclose]

theorem skipFrom?_array (hblank : skipBlank before = some '[' :: input)
    (hne : ∀ tail, skipBlank input ≠ some ']' :: tail) :
    skipFrom? (fuel + 1) .value outer before =
      skipFrom? fuel .value (.array :: outer) (skipBlank input) := by
  rw [skipFrom?.eq_def]
  simp only [hblank]

theorem skipFrom?_emptyObject (hblank : skipBlank before = some '{' :: input)
    (hclose : skipBlank input = some '}' :: rest) :
    skipFrom? (fuel + 1) .value outer before = skipFrom? fuel .after outer rest := by
  rw [skipFrom?.eq_def]
  simp only [hblank, hclose]

theorem skipFrom?_object (hblank : skipBlank before = some '{' :: input)
    (hne : ∀ tail, skipBlank input ≠ some '}' :: tail)
    (hkey : skipKey? (skipBlank input) = some rest) :
    skipFrom? (fuel + 1) .value outer before =
      skipFrom? fuel .value (.object :: outer) rest := by
  rw [skipFrom?.eq_def]
  simp only [hblank, hkey]

theorem skipFrom?_nextItem (hsep : skipBlank before = some ',' :: rest) :
    skipFrom? (fuel + 1) .after (.array :: outer) before =
      skipFrom? fuel .value (.array :: outer) rest := by
  rw [skipFrom?.eq_def]
  simp only [hsep]

theorem skipFrom?_lastItem (hend : skipBlank before = some ']' :: rest) :
    skipFrom? (fuel + 1) .after (.array :: outer) before =
      skipFrom? fuel .after outer rest := by
  rw [skipFrom?.eq_def]
  simp only [hend]

theorem skipFrom?_nextMember (hsep : skipBlank before = some ',' :: input)
    (hkey : skipKey? (skipBlank input) = some rest) :
    skipFrom? (fuel + 1) .after (.object :: outer) before =
      skipFrom? fuel .value (.object :: outer) rest := by
  rw [skipFrom?.eq_def]
  simp only [hsep, hkey]

theorem skipFrom?_lastMember (hend : skipBlank before = some '}' :: rest) :
    skipFrom? (fuel + 1) .after (.object :: outer) before =
      skipFrom? fuel .after outer rest := by
  rw [skipFrom?.eq_def]
  simp only [hend]

end Step

/-! ## Whole values -/

/-- What the machine does with a text that begins with a phrase: in a number
of steps that the length of the text bounds, it comes to where the phrase ends
and has closed what the phrase closes. The members of an object are entered
behind their first name, for the name is passed over by the step before. -/
def Passes : Phrase → Pieces → Pieces → Prop
  | .value _, input, rest =>
    ∃ n, n + 2 * rest.length ≤ 2 * input.length ∧
      ∀ fuel outer before, skipBlank before = input →
        skipFrom? (fuel + n) .value outer before = skipFrom? fuel .after outer rest
  | .items _, input, rest =>
    ∃ n, n + 2 * rest.length ≤ 2 * input.length ∧
      ∀ fuel outer before, skipBlank before = input →
        skipFrom? (fuel + n) .value (.array :: outer) before =
          skipFrom? fuel .after outer rest
  | .members _, input, rest =>
    ∃ inner n, skipKey? input = some inner ∧ inner.length ≤ input.length ∧
      n + 2 * rest.length ≤ 2 * inner.length ∧
      ∀ fuel outer,
        skipFrom? (fuel + n) .value (.object :: outer) inner =
          skipFrom? fuel .after outer rest

/-- A value that is passed over in one step. -/
theorem passes_of_step {v : Value} {input rest : Pieces}
    (hlen : rest.length < input.length)
    (hstep : ∀ fuel outer before, skipBlank before = input →
      skipFrom? (fuel + 1) .value outer before = skipFrom? fuel .after outer rest) :
    Passes (.value v) input rest :=
  ⟨1, by omega, hstep⟩

theorem passes_scalar {v : Value} {input rest : Pieces}
    (harray : ∀ tail, input ≠ some '[' :: tail)
    (hobject : ∀ tail, input ≠ some '{' :: tail)
    (h : skipScalar? input = some rest) (hlen : rest.length < input.length) :
    Passes (.value v) input rest :=
  passes_of_step hlen fun _ _ _ hblank => skipFrom?_scalar hblank harray hobject h

theorem word?_length_lt {word : String} {input rest : Pieces}
    (hword : 0 < word.length) (h : word? word input = some rest) :
    rest.length < input.length := by
  rw [word?] at h
  split at h
  · rename_i hprefix
    injection h with h
    subst h
    have hle := (List.isPrefixOf_iff_prefix.mp hprefix).length_le
    rw [List.length_map, String.length_toList] at hle
    rw [List.length_drop]
    omega
  · cases h

/-- A number is passed over as the number that it is: no other form begins as
a number does. -/
theorem passes_number {input rest : Pieces} {numeral : Numeral} {n : Number}
    (h : numeral? input = some (numeral, rest)) :
    Passes (.value (.number n)) input rest := by
  obtain ⟨c, tail, hinput, _, hlen⟩ := numeral?_head h
  refine passes_scalar (numeral?_not_head h rfl (by decide))
    (numeral?_not_head h rfl (by decide)) ?_ ?_
  · rw [skipScalar?.eq_def]
    split
    · exact absurd rfl (numeral?_not_head h rfl (by decide) _)
    · exact absurd rfl (numeral?_not_head h rfl (by decide) _)
    · exact absurd rfl (numeral?_not_head h rfl (by decide) _)
    · exact absurd rfl (numeral?_not_head h rfl (by decide) _)
    · rw [h]
      rfl
  · rw [hinput, List.length_cons]
    omega

/-- The induction over the derivation, one case for each rule. -/
theorem passes_of_derives {phrase : Phrase} {input rest : Pieces}
    (h : Derives phrase input rest) : Passes phrase input rest := by
  induction h with
  | string h =>
      obtain ⟨hskip, hlen⟩ := skipString?_of_stringOnto h
      refine passes_scalar (by simp) (by simp) hskip ?_
      rw [List.length_cons]
      omega
  | null h =>
      exact passes_scalar (by simp) (by simp) h (word?_length_lt (by decide) h)
  | true h =>
      exact passes_scalar (by simp) (by simp) h (word?_length_lt (by decide) h)
  | false h =>
      exact passes_scalar (by simp) (by simp) h (word?_length_lt (by decide) h)
  | number h _ => exact passes_number h
  | emptyArray hclose =>
      refine passes_of_step ?_ fun _ _ _ hblank => skipFrom?_emptyArray hblank hclose
      exact (length_lt_of_skipBlank hclose).trans (Nat.lt_succ_self _)
  | @array vs input rest hne _ ih =>
      obtain ⟨n, hn, hrun⟩ := ih
      have := length_skipBlank_le input
      refine ⟨n + 1, ?_, fun fuel outer before hblank => ?_⟩
      · rw [List.length_cons]
        omega
      · rw [← Nat.add_assoc, skipFrom?_array hblank hne,
          hrun _ _ _ (skipBlank_skipBlank input)]
  | emptyObject hclose =>
      refine passes_of_step ?_ fun _ _ _ hblank => skipFrom?_emptyObject hblank hclose
      exact (length_lt_of_skipBlank hclose).trans (Nat.lt_succ_self _)
  | @object ms input rest hne _ ih =>
      obtain ⟨inner, n, hkey, hinner, hn, hrun⟩ := ih
      have := length_skipBlank_le input
      refine ⟨n + 1, ?_, fun fuel outer before hblank => ?_⟩
      · rw [List.length_cons]
        omega
      · rw [← Nat.add_assoc, skipFrom?_object hblank hne hkey, hrun]
  | @lastItem v input after rest _ hend ih =>
      obtain ⟨n, hn, hrun⟩ := ih
      have := length_lt_of_skipBlank hend
      refine ⟨n + 1, by omega, fun fuel outer before hblank => ?_⟩
      rw [Nat.add_comm n, ← Nat.add_assoc, hrun _ _ _ hblank, skipFrom?_lastItem hend]
  | @nextItem v vs input after next rest _ hsep _ ih ihs =>
      obtain ⟨n, hn, hrun⟩ := ih
      obtain ⟨m, hm, hruns⟩ := ihs
      have hafter := length_lt_of_skipBlank hsep
      have hnext := length_skipBlank_le next
      refine ⟨m + 1 + n, by omega, fun fuel outer before hblank => ?_⟩
      rw [← Nat.add_assoc, hrun _ _ _ hblank, ← Nat.add_assoc,
        skipFrom?_nextItem hsep, hruns _ _ _ rfl]
  | @lastMember key v input inner after rest hk _ hend ih =>
      obtain ⟨hkey, hinner⟩ := skipKey?_of_key? hk
      obtain ⟨n, hn, hrun⟩ := ih
      have hblank := length_skipBlank_le inner
      have := length_lt_of_skipBlank hend
      refine ⟨inner, n + 1, hkey, hinner, by omega, fun fuel outer => ?_⟩
      rw [Nat.add_comm n, ← Nat.add_assoc, hrun _ _ _ rfl, skipFrom?_lastMember hend]
  | @nextMember key v ms input inner after next rest hk _ hsep _ ih ihs =>
      obtain ⟨hkey, hinner⟩ := skipKey?_of_key? hk
      obtain ⟨n, hn, hrun⟩ := ih
      obtain ⟨inner', m, hkey', hinner', hm, hruns⟩ := ihs
      have hblank := length_skipBlank_le inner
      have hafter := length_lt_of_skipBlank hsep
      have hnext := length_skipBlank_le next
      refine ⟨inner, m + 1 + n, hkey, hinner, by omega, fun fuel outer => ?_⟩
      rw [← Nat.add_assoc, hrun _ _ _ rfl, ← Nat.add_assoc,
        skipFrom?_nextMember hsep hkey', hruns]

/-- Where a value is derived behind blanks, more fuel than twice what is there
passes over that value. -/
theorem skipValue?_of_derives {v : Value} {input rest : Pieces} {fuel : Nat}
    (h : Derives (.value v) (skipBlank input) rest)
    (hfuel : 2 * input.length < fuel) : skipValue? fuel input = some rest := by
  obtain ⟨n, hn, hrun⟩ := passes_of_derives h
  have := length_skipBlank_le input
  obtain ⟨spare, rfl⟩ : ∃ spare, fuel = spare + 1 + n :=
    ⟨fuel - 1 - n, by omega⟩
  rw [skipValue?, hrun _ _ _ rfl, skipFrom?]

/-- What is left behind a value is no longer than the text was. -/
theorem length_le_of_derives {v : Value} {input rest : Pieces}
    (h : Derives (.value v) input rest) : rest.length ≤ input.length := by
  obtain ⟨n, hn, _⟩ := passes_of_derives h
  omega

end FaultGate.Json
