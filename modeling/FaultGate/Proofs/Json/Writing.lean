import FaultGate.Json.Text
import FaultGate.Proofs.Json.Document
import Mathlib.Data.List.Forall2

/-!
# The writer keeps to the grammar

The writer puts texts together that are JSON texts already, and knows nothing of
values. Here each of its functions is compared with the rule for the value that
it is meant to write: a string is written with one of its spellings, a number
with its digits, and an array or an object with whatever spells its parts.

Of the spellings that a character has the writer uses one. Which one it is does
not matter to anyone who reads the text, so it is forgotten here and no law
about a document that was written goes back to it.
-/

namespace FaultGate.Json

/-! ## Strings -/

/-- A control is written with the number of its code point, which has two
hexadecimal digits. -/
theorem hexCode_control {c : Char} (h : c.toNat < 0x20) :
    HexCode ['0', '0', hexDigit (c.toNat / 16), hexDigit (c.toNat % 16)] c.toNat := by
  have hzero : Text.HexDigit '0'.toNat 0 := .inl ⟨by decide, rfl⟩
  have hhigh := hexDigit_hexDigit (n := c.toNat / 16) (by omega)
  have hlow := hexDigit_hexDigit (n := c.toNat % 16) (by omega)
  have hcode := HexCode.mk hzero hzero hhigh hlow
  have hvalue : ((0 * 16 + 0) * 16 + c.toNat / 16) * 16 + c.toNat % 16 = c.toNat := by
    omega
  rw [hvalue] at hcode
  exact hcode

theorem spells_escapeChar_append (c : Char) {text chars : List Char}
    (h : Spells text chars) : Spells (escapeChar c ++ text) (c :: chars) := by
  rw [escapeChar]
  split_ifs with hquote hslash hback htab hline hfeed hreturn hcontrol
  · subst hquote; exact .short (by decide) h
  · subst hslash; exact .short (by decide) h
  · subst hback; exact .short (by decide) h
  · subst htab; exact .short (by decide) h
  · subst hline; exact .short (by decide) h
  · subst hfeed; exact .short (by decide) h
  · subst hreturn; exact .short (by decide) h
  · exact .code (hexCode_control hcontrol) h
  · exact .plain hquote hslash (Nat.not_lt.mp hcontrol) h

theorem spells_escaped (chars : List Char) : Spells (chars.flatMap escapeChar) chars := by
  induction chars with
  | nil => exact .nil
  | cons c chars ih =>
      rw [List.flatMap_cons]
      exact spells_escapeChar_append c ih

theorem toList_string (s : String) :
    (string s).toList = '"' :: (s.toList.flatMap escapeChar ++ ['"']) := by
  rw [string, String.toList_ofList, List.cons_append]

theorem written_string (s : String) : Written (.value (.string s)) (string s).toList := by
  rw [toList_string]
  exact .string (spells_escaped s.toList)

/-! ## Numbers -/

theorem ofDigits_append_singleton (ds : List Nat) (d : Nat) :
    ofDigits (ds ++ [d]) = ofDigits ds * 10 + d := by
  rw [ofDigits, List.foldl_append, List.foldl_cons, List.foldl_nil, ← ofDigits]

/-- A number is written in decimal as JSON wants it: with a digit at least, and
without a zero in front unless that is all of it. -/
theorem toDigits_eq_map (n : Nat) :
    ∃ ds, Nat.toDigits 10 n = ds.map Nat.digitChar ∧ ds ≠ [] ∧ (∀ d ∈ ds, d < 10) ∧
      (ds.head? = some 0 → ds = [0]) ∧ ofDigits ds = n := by
  induction n using Nat.base_induction 10 (by decide) with
  | single n hn =>
      refine ⟨[n], Nat.toDigits_of_lt_base hn, by simp, by simpa using hn, ?_, ?_⟩
      · intro h
        rw [List.head?_cons, Option.some.injEq] at h
        rw [h]
      · rw [ofDigits, List.foldl_cons, List.foldl_nil, Nat.zero_mul, Nat.zero_add]
  | digit m k hk hm ih =>
      obtain ⟨ds, htext, hne, hds, hzero, hvalue⟩ := ih
      refine ⟨ds ++ [k], ?_, by simp, ?_, ?_, ?_⟩
      · rw [← Nat.toDigits_append_toDigits (by decide) hm hk, htext,
          Nat.toDigits_of_lt_base hk, List.map_append, List.map_cons, List.map_nil]
      · intro d hd
        obtain hd | hd := List.mem_append.mp hd
        · exact hds d hd
        · rw [List.mem_singleton.mp hd]
          exact hk
      · -- what stands in front is the number without its last digit, and that is no zero
        intro hhead
        rw [List.head?_append_of_ne_nil _ hne] at hhead
        rw [hzero hhead, ofDigits, List.foldl_cons, List.foldl_nil] at hvalue
        omega
      · rw [ofDigits_append_singleton, hvalue, Nat.mul_comm]

theorem spellsNumeral_toDigits (negative : Bool) (n : Nat) :
    ∃ ds, SpellsNumeral ((if negative then ['-'] else []) ++ Nat.toDigits 10 n)
      ⟨negative, ds, [], none⟩ ∧ ofDigits ds = n := by
  obtain ⟨ds, htext, hne, hds, hzero, hvalue⟩ := toDigits_eq_map n
  have h : SpellsNumeral _ ⟨negative, ds, [], none⟩ :=
    .mk hne hds hzero .absent .absent
  rw [List.append_nil, List.append_nil, ← htext] at h
  exact ⟨ds, h, hvalue⟩

/-- An integer that fits a machine word, with a sign or without, is written as
the number that is read as that integer. -/
theorem written_integer {n : Int} (hlow : -(Nat.pow 2 63 : Int) ≤ n)
    (hhigh : n < (Nat.pow 2 64 : Int)) :
    Written (.value (.number (.integer n))) n.repr.toList := by
  cases n with
  | ofNat n =>
      obtain ⟨ds, hspells, hvalue⟩ := spellsNumeral_toDigits false n
      have hfits : n < UInt64.size := Int.ofNat_lt.mp hhigh
      rw [Int.repr, Nat.toList_repr]
      refine .number hspells ?_
      simp only [Numeral.value?, Numeral.isWhole, hvalue, hfits, List.isEmpty_nil,
        Option.isNone_none, Bool.and_self, Bool.not_false, decide_true, if_true]
      rfl
  | negSucc n =>
      obtain ⟨ds, hspells, hvalue⟩ := spellsNumeral_toDigits true (n + 1)
      have hfits : n + 1 ≤ Nat.pow 2 63 := by
        rw [Int.negSucc_eq] at hlow
        have hpow : Nat.pow 2 63 = 2 ^ 63 := rfl
        omega
      rw [Int.repr, String.toList_append, Nat.toList_repr]
      refine .number hspells ?_
      simp only [Numeral.value?, Numeral.isWhole, hvalue, hfits, List.isEmpty_nil,
        Option.isNone_none, Bool.and_self, Bool.not_true, Bool.and_false, Bool.false_and,
        Bool.false_eq_true, if_false, decide_true, Nat.succ_ne_zero, ne_eq,
        not_false_eq_true, if_true]
      rfl

/-! ## Arrays and objects -/

/-- The items of an array and its bracket. A comma is written before each item
but the first, so the induction tells the last item from the others. -/
theorem written_items {texts : List String} {vs : List Value} (hne : vs ≠ [])
    (h : List.Forall₂ (fun text v => Written (.value v) text.toList) texts vs) :
    Written (.items vs) ((String.intercalate "," texts).toList ++ [']']) := by
  rw [String.toList_intercalate]
  induction h with
  | nil => exact absurd rfl hne
  | @cons text v texts vs h hs ih =>
      cases hs with
      | nil =>
          rw [List.map_cons, List.map_nil, List.intercalate_singleton]
          exact .lastItem h blank_nil
      | @cons text' v' texts vs h' hs =>
          have hrest := ih (List.cons_ne_nil _ _)
          have hitems := Written.nextItem h blank_nil blank_nil hrest
          rw [List.map_cons, List.map_cons, List.intercalate_cons_cons]
          simpa using hitems

theorem written_array {texts : List String} {vs : List Value}
    (h : List.Forall₂ (fun text v => Written (.value v) text.toList) texts vs) :
    Written (.value (.array vs)) (array texts).toList := by
  rw [array, String.toList_append, String.toList_append, List.append_assoc]
  cases vs with
  | nil =>
      cases h
      exact .emptyArray blank_nil
  | cons v vs => exact .array blank_nil (written_items (List.cons_ne_nil _ _) h)

/-- The members of an object and its brace, as the items of an array. -/
theorem written_members {texts : List (String × String)} {ms : List (String × Value)}
    (hne : ms ≠ [])
    (h : List.Forall₂ (fun t m => t.1 = m.1 ∧ Written (.value m.2) t.2.toList) texts ms) :
    Written (.members ms)
      ((String.intercalate "," (texts.map fun m => string m.1 ++ ":" ++ m.2)).toList ++
        ['\x7d']) := by
  rw [String.toList_intercalate]
  induction h with
  | nil => exact absurd rfl hne
  | @cons t m texts ms h hs ih =>
      obtain ⟨hkey, hvalue⟩ := h
      have hname := SpellsKey.mk (spells_escaped t.1.toList) blank_nil
      rw [hkey] at hname
      cases hs with
      | nil =>
          have hmember := Written.lastMember hname blank_nil hvalue blank_nil
          simpa [toList_string, hkey] using hmember
      | @cons t' m' texts ms h' hs =>
          have hrest := ih (List.cons_ne_nil _ _)
          have hmembers :=
            Written.nextMember hname blank_nil hvalue blank_nil blank_nil hrest
          simp only [List.map_cons, List.intercalate_cons_cons]
          simpa [toList_string, hkey] using hmembers

theorem written_object {texts : List (String × String)} {ms : List (String × Value)}
    (h : List.Forall₂ (fun t m => t.1 = m.1 ∧ Written (.value m.2) t.2.toList) texts ms) :
    Written (.value (.object ms)) (object texts).toList := by
  rw [object, String.toList_append, String.toList_append, List.append_assoc]
  cases ms with
  | nil =>
      cases h
      exact .emptyObject blank_nil
  | cons m ms => exact .object blank_nil (written_members (List.cons_ne_nil _ _) h)

end FaultGate.Json
