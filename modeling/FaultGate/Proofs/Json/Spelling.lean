import FaultGate.Proofs.Text.Hexadecimal
import FaultGate.Proofs.Text.Utf8

/-!
# How strings and numbers are spelled in JSON

The rules for phrases leave strings and numbers to the reader that takes them.
This file says what the two look like from the writer's side, with nothing of
the reader in it: which characters may stand in a string and in how many ways
each of them can be spelled, and what a number is made of. Then it shows that
the reader takes every spelling for what it spells.

A string ends with its quote and a number ends nowhere: it is read as far as it
goes. So a number is only read to its end when what stands behind it cannot be
part of it, and `Follows` says what that may be. In a document it always is.
-/

namespace FaultGate.Json

open FaultGate.Text (HexDigit Pieces)

/-! ## Strings -/

/-- Four hexadecimal digits, and the number that they make. -/
inductive HexCode : List Char → Nat → Prop where
  | mk {a b c d : Char} {i j k l : Nat} (ha : HexDigit a.toNat i)
      (hb : HexDigit b.toNat j) (hc : HexDigit c.toNat k) (hd : HexDigit d.toNat l) :
      HexCode [a, b, c, d] (((i * 16 + j) * 16 + k) * 16 + l)

/-- The letters that may stand behind a backslash, and what they stand for. -/
def shortEscapes : List (Char × Char) :=
  [('"', '"'), ('\\', '\\'), ('/', '/'), ('b', '\x08'), ('f', '\x0c'), ('n', '\n'),
    ('r', '\r'), ('t', '\t')]

/-- What stands between the quotes of a string, and the characters it stands
for. A character has several spellings: itself unless it is a quote, a backslash
or a control, a letter behind a backslash, or the number of its code point, in
two halves where four digits are not enough. -/
inductive Spells : List Char → List Char → Prop where
  | nil : Spells [] []
  | plain {c : Char} {text chars : List Char} (hquote : c ≠ '"') (hslash : c ≠ '\\')
      (hcontrol : 0x20 ≤ c.toNat) (h : Spells text chars) :
      Spells (c :: text) (c :: chars)
  | short {letter c : Char} {text chars : List Char}
      (hletter : (letter, c) ∈ shortEscapes) (h : Spells text chars) :
      Spells ('\\' :: letter :: text) (c :: chars)
  | code {c : Char} {digits text chars : List Char} (hcode : HexCode digits c.toNat)
      (h : Spells text chars) :
      Spells ('\\' :: 'u' :: (digits ++ text)) (c :: chars)
  | halves {c : Char} {high low : Nat} {digits digits' text chars : List Char}
      (hhigh : HexCode digits (0xd800 + high)) (hlow : HexCode digits' (0xdc00 + low))
      (hlt : low < 0x400) (hc : c.toNat = 0x10000 + high * 0x400 + low)
      (h : Spells text chars) :
      Spells ('\\' :: 'u' :: (digits ++ '\\' :: 'u' :: (digits' ++ text))) (c :: chars)

theorem stringOnto_close (done : List Char) (rest : Pieces) :
    stringOnto done (some '"' :: rest) = some (String.ofList done.reverse, rest) := by
  rw [stringOnto.eq_def]
  rfl

theorem stringOnto_plain {c : Char} (hquote : c ≠ '"') (hslash : c ≠ '\\')
    (hcontrol : 0x20 ≤ c.toNat) (done : List Char) (rest : Pieces) :
    stringOnto done (some c :: rest) = stringOnto (c :: done) rest := by
  rw [stringOnto.eq_def]
  simp only [if_neg hquote, if_neg hslash, if_neg (Nat.not_lt.mpr hcontrol)]

theorem stringOnto_letter {letter c : Char} (h : escaped? letter = some c)
    (done : List Char) (rest : Pieces) :
    stringOnto done (some '\\' :: some letter :: rest) = stringOnto (c :: done) rest := by
  have hu : letter ≠ 'u' := by
    rintro rfl
    cases h
  rw [stringOnto.eq_def]
  simp only [if_neg (show ¬ '\\' = '"' by decide), if_true]
  split
  · rename_i heq
    injection heq with heq _
    injection heq with heq
    exact absurd heq hu
  · rename_i heq
    injection heq with heq hrest
    injection heq with heq
    subst heq hrest
    rw [h]
  · rename_i hno
    exact absurd rfl (hno letter rest)

theorem stringOnto_code {a b c d : Option Char} {n : Nat} (h : code? a b c d = some n)
    (hhigh : isHighHalf n = false) (hlow : isLowHalf n = false)
    (done : List Char) (rest : Pieces) :
    stringOnto done (some '\\' :: some 'u' :: a :: b :: c :: d :: rest) =
      stringOnto (Char.ofNat n :: done) rest := by
  rw [stringOnto.eq_def]
  simp only [if_neg (show ¬ '\\' = '"' by decide), if_true, h, hhigh, hlow,
    Bool.false_eq_true, if_false]

theorem stringOnto_halves {a b c d e f g i : Option Char} {high low : Nat} {x : Char}
    (h : code? a b c d = some high) (h' : code? e f g i = some low)
    (hhigh : isHighHalf high = true) (hpair : paired? high low = some x)
    (done : List Char) (rest : Pieces) :
    stringOnto done (some '\\' :: some 'u' :: a :: b :: c :: d ::
        some '\\' :: some 'u' :: e :: f :: g :: i :: rest) =
      stringOnto (x :: done) rest := by
  have hlow : isLowHalf high = false := by
    simp only [isHighHalf, isLowHalf, Bool.and_eq_true, decide_eq_true_eq,
      Bool.and_eq_false_iff, decide_eq_false_iff_not] at hhigh ⊢
    omega
  rw [stringOnto.eq_def]
  simp only [if_neg (show ¬ '\\' = '"' by decide), if_true, h, hhigh, hlow,
    Bool.false_eq_true, if_false, h', Option.bind_some, hpair]

theorem code?_of_hexCode {digits : List Char} {n : Nat} (h : HexCode digits n) :
    ∃ a b c d, digits = [a, b, c, d] ∧
      code? (some a) (some b) (some c) (some d) = some n := by
  obtain ⟨ha, hb, hc, hd⟩ := h
  refine ⟨_, _, _, _, rfl, ?_⟩
  rw [code?, hexValue?_eq_some_iff.mpr ha, hexValue?_eq_some_iff.mpr hb,
    hexValue?_eq_some_iff.mpr hc, hexValue?_eq_some_iff.mpr hd]
  rfl

/-- The code point of a character is no half of a pair. -/
theorem not_half_toNat (c : Char) :
    isHighHalf c.toNat = false ∧ isLowHalf c.toNat = false := by
  have hvalid : c.toNat < 0xd800 ∨ 0xdfff < c.toNat ∧ c.toNat < 0x110000 := c.valid
  simp only [isHighHalf, isLowHalf, Bool.and_eq_false_iff, decide_eq_false_iff_not]
  omega

/-- Two halves that make up the code point of a character are a pair. -/
theorem paired?_of_toNat {c : Char} {high low : Nat} (hlt : low < 0x400)
    (hc : c.toNat = 0x10000 + high * 0x400 + low) :
    isHighHalf (0xd800 + high) = true ∧
      paired? (0xd800 + high) (0xdc00 + low) = some c := by
  have hvalid : c.toNat < 0xd800 ∨ 0xdfff < c.toNat ∧ c.toNat < 0x110000 := c.valid
  have hlow : isLowHalf (0xdc00 + low) = true := by
    simp only [isLowHalf, Bool.and_eq_true, decide_eq_true_eq]
    omega
  refine ⟨?_, ?_⟩
  · simp only [isHighHalf, Bool.and_eq_true, decide_eq_true_eq]
    omega
  · rw [paired?, if_pos hlow, Nat.add_sub_cancel_left, Nat.add_sub_cancel_left, ← hc,
      Char.ofNat_toNat]

theorem escaped?_of_mem {letter c : Char} (h : (letter, c) ∈ shortEscapes) :
    escaped? letter = some c := by
  have hall : ∀ e ∈ shortEscapes, escaped? e.1 = some e.2 := by decide
  exact hall _ h

/-- A string is read up to the quote that closes it. The induction is on its
spelling; what was read before stands in the accumulator, last one first. -/
theorem stringOnto_of_spells {text chars : List Char} (h : Spells text chars)
    (done : List Char) (rest : Pieces) :
    stringOnto done (text.map some ++ some '"' :: rest) =
      some (String.ofList (done.reverse ++ chars), rest) := by
  induction h generalizing done with
  | nil =>
      rw [List.map_nil, List.nil_append, stringOnto_close, List.append_nil]
  | plain hquote hslash hcontrol _ ih =>
      rw [List.map_cons, List.cons_append, stringOnto_plain hquote hslash hcontrol, ih,
        Text.reverse_cons_append]
  | short hletter _ ih =>
      simp only [List.map_cons, List.cons_append]
      rw [stringOnto_letter (escaped?_of_mem hletter), ih, Text.reverse_cons_append]
  | @code c _ _ _ hcode _ ih =>
      obtain ⟨a, b, d, e, rfl, hread⟩ := code?_of_hexCode hcode
      obtain ⟨hhigh, hlow⟩ := not_half_toNat c
      simp only [List.map_cons, List.cons_append, List.nil_append]
      rw [stringOnto_code hread hhigh hlow, Char.ofNat_toNat, ih, Text.reverse_cons_append]
  | halves hhigh hlow hlt hc _ ih =>
      obtain ⟨a, b, d, e, rfl, hread⟩ := code?_of_hexCode hhigh
      obtain ⟨a', b', d', e', rfl, hread'⟩ := code?_of_hexCode hlow
      obtain ⟨hhalf, hpair⟩ := paired?_of_toNat hlt hc
      simp only [List.map_cons, List.cons_append, List.nil_append]
      rw [stringOnto_halves hread hread' hhalf hpair, ih, Text.reverse_cons_append]

theorem string?_of_spells {text : List Char} {s : String} (h : Spells text s.toList)
    (rest : Pieces) : string? (text.map some ++ some '"' :: rest) = some (s, rest) := by
  rw [string?, stringOnto_of_spells h, List.reverse_nil, List.nil_append,
    String.ofList_toList]

/-! ## Blanks -/

/-- What may stand between the parts of a document. -/
def Blank (text : List Char) : Prop :=
  ∀ c ∈ text, c = ' ' ∨ c = '\t' ∨ c = '\n' ∨ c = '\r'

theorem blank_nil : Blank [] := by
  intro c hc
  cases hc

theorem isBlank_of_blank {text : List Char} (h : Blank text) :
    ∀ p ∈ text.map some, isBlank p = true := by
  intro p hp
  obtain ⟨c, hc, rfl⟩ := List.mem_map.mp hp
  obtain rfl | rfl | rfl | rfl := h c hc <;> rfl

/-- Blanks are skipped up to what is none. -/
theorem skipBlank_blank_append {text : List Char} (h : Blank text) {p : Option Char}
    (hp : isBlank p = false) (rest : Pieces) :
    skipBlank (text.map some ++ p :: rest) = p :: rest := by
  rw [skipBlank, List.dropWhile_append_of_pos (isBlank_of_blank h),
    List.dropWhile_cons_of_neg (by rw [hp]; decide)]

theorem skipBlank_of_blank {text : List Char} (h : Blank text) :
    skipBlank (text.map some) = [] := by
  rw [skipBlank, ← List.append_nil (text.map some),
    List.dropWhile_append_of_pos (isBlank_of_blank h), List.dropWhile_nil]

/-! ## Numbers -/

/-- The fraction of a number, if it has one: a point and one digit or more. -/
inductive SpellsFraction : List Char → List Nat → Prop where
  | absent : SpellsFraction [] []
  | present {ds : List Nat} (hne : ds ≠ []) (hds : ∀ d ∈ ds, d < 10) :
      SpellsFraction ('.' :: ds.map Nat.digitChar) ds

/-- The exponent of a number, if it has one: a mark, a sign that may be missing,
and one digit or more. -/
inductive SpellsExponent : List Char → Option (Bool × List Nat) → Prop where
  | absent : SpellsExponent [] none
  | unsigned {mark : Char} {ds : List Nat} (hmark : mark = 'e' ∨ mark = 'E')
      (hne : ds ≠ []) (hds : ∀ d ∈ ds, d < 10) :
      SpellsExponent (mark :: ds.map Nat.digitChar) (some (false, ds))
  | plus {mark : Char} {ds : List Nat} (hmark : mark = 'e' ∨ mark = 'E')
      (hne : ds ≠ []) (hds : ∀ d ∈ ds, d < 10) :
      SpellsExponent (mark :: '+' :: ds.map Nat.digitChar) (some (false, ds))
  | minus {mark : Char} {ds : List Nat} (hmark : mark = 'e' ∨ mark = 'E')
      (hne : ds ≠ []) (hds : ∀ d ∈ ds, d < 10) :
      SpellsExponent (mark :: '-' :: ds.map Nat.digitChar) (some (true, ds))

/-- A number: its sign if it is negative, digits that do not start with a zero
unless that is all of them, and what it has of a fraction and an exponent. -/
inductive SpellsNumeral : List Char → Numeral → Prop where
  | mk {negative : Bool} {whole fraction : List Nat} {exponent : Option (Bool × List Nat)}
      {fractionText exponentText : List Char} (hne : whole ≠ [])
      (hds : ∀ d ∈ whole, d < 10) (hzero : whole.head? = some 0 → whole = [0])
      (hf : SpellsFraction fractionText fraction)
      (he : SpellsExponent exponentText exponent) :
      SpellsNumeral
        ((if negative then ['-'] else []) ++ whole.map Nat.digitChar ++
          (fractionText ++ exponentText))
        ⟨negative, whole, fraction, exponent⟩

/-- No digit comes next. -/
def NoDigit (input : Pieces) : Prop :=
  ∀ p tail, input = p :: tail → digit? p = none

/-- What comes next cannot be part of a value: a blank, a comma, a closing
bracket, or nothing. -/
def Follows (rest : Pieces) : Prop :=
  ∀ c tail, rest = some c :: tail → c ∈ [' ', '\t', '\n', '\r', ',', ']', '\x7d']

theorem Follows.head {p : Option Char} {tail : Pieces} (h : Follows (p :: tail)) :
    digit? p = none ∧ p ≠ some '.' ∧ p ≠ some 'e' ∧ p ≠ some 'E' := by
  cases p with
  | none => exact ⟨rfl, by simp, by simp, by simp⟩
  | some c =>
      have hc := h c tail rfl
      simp only [List.mem_cons, List.not_mem_nil, or_false] at hc
      obtain rfl | rfl | rfl | rfl | rfl | rfl | rfl := hc
      all_goals exact ⟨rfl, by decide, by decide, by decide⟩

theorem Follows.noDigit {rest : Pieces} (h : Follows rest) : NoDigit rest := by
  rintro p tail rfl
  exact h.head.1

theorem digit?_digitChar {d : Nat} (h : d < 10) : digit? (some d.digitChar) = some d := by
  have hall : ∀ n < 10, digit? (some (Nat.digitChar n)) = some n := by decide
  exact hall d h

theorem digits_of_noDigit {rest : Pieces} (h : NoDigit rest) :
    digits rest = ([], rest) := by
  cases rest with
  | nil => rfl
  | cons p tail =>
      simp only [digits, List.takeWhile_cons, List.dropWhile_cons, h p tail rfl,
        Option.isSome_none, Bool.false_eq_true, if_false, List.filterMap_nil]

theorem digits_cons {p : Option Char} {d : Nat} (h : digit? p = some d) (rest : Pieces) :
    digits (p :: rest) = (d :: (digits rest).1, (digits rest).2) := by
  simp only [digits, List.takeWhile_cons, List.dropWhile_cons, h, Option.isSome_some,
    if_true, List.filterMap_cons_some h]

/-- Digits are read to the last one. -/
theorem digits_append {ds : List Nat} (hds : ∀ d ∈ ds, d < 10) {rest : Pieces}
    (hrest : NoDigit rest) :
    digits ((ds.map Nat.digitChar).map some ++ rest) = (ds, rest) := by
  induction ds with
  | nil => exact digits_of_noDigit hrest
  | cons d ds ih =>
      have hd := digit?_digitChar (hds d List.mem_cons_self)
      rw [List.map_cons, List.map_cons, List.cons_append, digits_cons hd,
        ih fun d' hd' => hds d' (List.mem_cons_of_mem _ hd')]

theorem noDigit_of_head {c : Char} {rest : Pieces} (h : digit? (some c) = none) :
    NoDigit (some c :: rest) := by
  intro p tail heq
  injection heq with heq _
  rw [← heq]
  exact h

theorem fraction?_of_spells {text : List Char} {fraction : List Nat}
    (h : SpellsFraction text fraction) {rest : Pieces} (hdigit : NoDigit rest)
    (hpoint : ∀ tail, rest ≠ some '.' :: tail) :
    fraction? (text.map some ++ rest) = some (fraction, rest) := by
  cases h with
  | absent =>
      rw [List.map_nil, List.nil_append, fraction?.eq_def]
      split
      · exact absurd rfl (hpoint _)
      · rfl
  | present hne hds =>
      rw [List.map_cons, List.cons_append, fraction?, digits_append hds hdigit]
      split
      · rename_i heq
        injection heq with heq _
        exact absurd heq hne
      · rfl

/-- An exponent behind its mark: its sign, and the digits behind that. -/
theorem exponent?_of_digits {mark : Char} (hmark : mark = 'e' ∨ mark = 'E')
    {input after rest : Pieces} {negative : Bool} {ds : List Nat} (hne : ds ≠ [])
    (hsign : decide (input.head? = some (some '-')) = negative)
    (hafter : (if (negative || decide (input.head? = some (some '+'))) = true
      then input.drop 1 else input) = after)
    (h : digits after = (ds, rest)) :
    exponent? (some mark :: input) = some (some (negative, ds), rest) := by
  have hcond : (decide (mark = 'e') || decide (mark = 'E')) = true := by
    obtain rfl | rfl := hmark <;> rfl
  rw [exponent?.eq_def]
  simp only [hcond, if_true, hsign, hafter, h]

theorem digitChar_not_sign {d : Nat} (h : d < 10) :
    Nat.digitChar d ≠ '-' ∧ Nat.digitChar d ≠ '+' := by
  have hall : ∀ n < 10, Nat.digitChar n ≠ '-' ∧ Nat.digitChar n ≠ '+' := by decide
  exact hall d h

theorem exponent?_of_spells {text : List Char} {exponent : Option (Bool × List Nat)}
    (h : SpellsExponent text exponent) {rest : Pieces} (hrest : Follows rest) :
    exponent? (text.map some ++ rest) = some (exponent, rest) := by
  cases h with
  | absent =>
      rw [List.map_nil, List.nil_append, exponent?.eq_def]
      split
      · rename_i c tail
        obtain ⟨_, _, he, hE⟩ := hrest.head
        rw [decide_eq_false fun hc => he (by rw [hc]),
          decide_eq_false fun hc => hE (by rw [hc])]
        rfl
      · rfl
  | unsigned hmark hne hds =>
      obtain ⟨d, ds, rfl⟩ := List.exists_cons_of_ne_nil hne
      obtain ⟨hminus, hplus⟩ := digitChar_not_sign (hds d List.mem_cons_self)
      have hread := digits_append hds hrest.noDigit
      simp only [List.map_cons, List.cons_append] at hread ⊢
      refine exponent?_of_digits hmark hne ?_ ?_ hread
      · simp only [List.head?_cons, Option.some.injEq, hminus, decide_false]
      · simp only [List.head?_cons, Option.some.injEq, hplus, decide_false, Bool.or_self,
          Bool.false_eq_true, if_false]
  | plus hmark hne hds =>
      have hread := digits_append hds hrest.noDigit
      simp only [List.map_cons, List.cons_append]
      exact exponent?_of_digits hmark hne rfl rfl hread
  | minus hmark hne hds =>
      have hread := digits_append hds hrest.noDigit
      simp only [List.map_cons, List.cons_append]
      exact exponent?_of_digits hmark hne rfl rfl hread

/-- Neither a digit nor a point stands behind the whole part of a number and
its fraction. -/
theorem exponent_head {text : List Char} {exponent : Option (Bool × List Nat)}
    (h : SpellsExponent text exponent) {rest : Pieces} (hrest : Follows rest) :
    NoDigit (text.map some ++ rest) ∧
      ∀ tail, text.map some ++ rest ≠ some '.' :: tail := by
  have hmark : ∀ {mark : Char} {tail : Pieces}, mark = 'e' ∨ mark = 'E' →
      NoDigit (some mark :: tail) ∧ ∀ tail', some mark :: tail ≠ some '.' :: tail' := by
    rintro mark tail (rfl | rfl)
    · exact ⟨noDigit_of_head rfl, fun _ h => by injection h with h; cases h⟩
    · exact ⟨noDigit_of_head rfl, fun _ h => by injection h with h; cases h⟩
  cases h with
  | absent =>
      refine ⟨hrest.noDigit, fun tail htail => ?_⟩
      rw [List.map_nil, List.nil_append] at htail
      rw [htail] at hrest
      exact hrest.head.2.1 rfl
  | unsigned hm => exact hmark hm
  | plus hm => exact hmark hm
  | minus hm => exact hmark hm

theorem fraction_noDigit {text : List Char} {fraction : List Nat}
    (h : SpellsFraction text fraction) {rest : Pieces} (hrest : NoDigit rest) :
    NoDigit (text.map some ++ rest) := by
  cases h with
  | absent => exact hrest
  | present => exact noDigit_of_head rfl

/-- A number is read to its end. -/
theorem numeral?_of_spells {text : List Char} {n : Numeral} (h : SpellsNumeral text n)
    {rest : Pieces} (hrest : Follows rest) :
    numeral? (text.map some ++ rest) = some (n, rest) := by
  obtain @⟨negative, whole, fraction, exponent, fractionText, exponentText, hne, hds,
    hzero, hf, he⟩ := h
  obtain ⟨hnone, hpoint⟩ := exponent_head he hrest
  have hexponent := exponent?_of_spells he hrest
  have hfraction := fraction?_of_spells hf hnone hpoint
  have hwhole := digits_append hds (fraction_noDigit hf hnone)
  obtain ⟨d, ds, rfl⟩ := List.exists_cons_of_ne_nil hne
  obtain ⟨hminus, _⟩ := digitChar_not_sign (hds d List.mem_cons_self)
  generalize hinput : (((if negative then ['-'] else []) ++
    (d :: ds).map Nat.digitChar ++ (fractionText ++ exponentText)).map some ++ rest) = input
  have hsign : decide (input.head? = some (some '-')) = negative := by
    rw [← hinput]
    cases negative with
    | false => simp [hminus]
    | true => rfl
  have hunsigned : (if input.head? = some (some '-') then input.drop 1 else input) =
      ((d :: ds).map Nat.digitChar).map some ++
        (fractionText.map some ++ (exponentText.map some ++ rest)) := by
    rw [← hinput]
    cases negative with
    | false => simp [hminus]
    | true => simp
  have hleading : ((d :: ds).isEmpty || (decide ((d :: ds).head? = some 0) &&
      decide ((d :: ds).length ≠ 1))) = false := by
    cases hd : decide ((d :: ds).head? = some 0) with
    | false => rfl
    | true =>
        rw [hzero (of_decide_eq_true hd)]
        rfl
  rw [numeral?]
  simp only [hunsigned, hwhole, hleading, hfraction, hsign, Bool.false_eq_true, if_false,
    Option.bind_eq_bind, Option.bind_some, hexponent]
  rfl

end FaultGate.Json
