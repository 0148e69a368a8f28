import FaultGate.Proofs.Json.Reading
import Mathlib

/-!
# The reader accepts documents and nothing else

That every document is read was shown before. Here is the way back: what the
reader takes for a string is one of the spellings of that string, what it takes
for a number is spelled as that number, and what it reads as a value is written
as that value. Together the two say which bytes are read as a value, and they
say it without the reader: the encoding of a document of that value, as long as
it is not nested too deep.

The reader looks at pieces, and some of them may be no characters. None of those
is ever part of what is read, which is why each law here finds characters and
maps them into the pieces.
-/

namespace FaultGate.Json

open FaultGate.Text (HexDigit Pieces)

/-! ## Strings -/

theorem hexDigit_of_hexValue? {p : Option Char} {n : Nat} (h : hexValue? p = some n) :
    ∃ c, p = some c ∧ HexDigit c.toNat n := by
  cases p with
  | none => cases h
  | some c => exact ⟨c, rfl, hexValue?_eq_some_iff.mp h⟩

theorem hexCode_of_code? {a b c d : Option Char} {n : Nat} (h : code? a b c d = some n) :
    ∃ digits, HexCode digits n ∧ [a, b, c, d] = digits.map some := by
  rw [code?] at h
  obtain ⟨i, hi, h⟩ := Option.bind_eq_some_iff.mp h
  obtain ⟨j, hj, h⟩ := Option.bind_eq_some_iff.mp h
  obtain ⟨k, hk, h⟩ := Option.bind_eq_some_iff.mp h
  obtain ⟨l, hl, h⟩ := Option.bind_eq_some_iff.mp h
  cases h
  obtain ⟨x, rfl, hx⟩ := hexDigit_of_hexValue? hi
  obtain ⟨y, rfl, hy⟩ := hexDigit_of_hexValue? hj
  obtain ⟨z, rfl, hz⟩ := hexDigit_of_hexValue? hk
  obtain ⟨w, rfl, hw⟩ := hexDigit_of_hexValue? hl
  exact ⟨_, .mk hx hy hz hw, rfl⟩

theorem HexCode.lt {digits : List Char} {n : Nat} (h : HexCode digits n) : n < 0x10000 := by
  obtain ⟨ha, hb, hc, hd⟩ := h
  have := ha.lt
  have := hb.lt
  have := hc.lt
  have := hd.lt
  omega

/-- Two numbers that are taken for a pair are the halves of the character. -/
theorem halves_of_paired? {high low : Nat} {c : Char} (hhigh : isHighHalf high = true)
    (h : paired? high low = some c) :
    ∃ i j, high = 0xd800 + i ∧ low = 0xdc00 + j ∧ j < 0x400 ∧
      c.toNat = 0x10000 + i * 0x400 + j := by
  rw [paired?] at h
  split at h
  · rename_i hlow
    injection h with h
    simp only [isHighHalf, isLowHalf, Bool.and_eq_true, decide_eq_true_eq] at hhigh hlow
    have hvalid : (0x10000 + (high - 0xd800) * 0x400 + (low - 0xdc00)).isValidChar :=
      .inr (by omega)
    refine ⟨high - 0xd800, low - 0xdc00, by omega, by omega, by omega, ?_⟩
    rw [← h, Char.toNat_ofNat, if_pos hvalid]
  · cases h

theorem letter_of_escaped? {letter c : Char} (h : escaped? letter = some c) :
    (letter, c) ∈ shortEscapes := by
  rw [escaped?.eq_def] at h
  split at h <;> cases h <;> decide

theorem spells_of_stringOnto {done : List Char} {input rest : Pieces} {s : String}
    (h : stringOnto done input = some (s, rest)) :
    ∃ text chars, Spells text chars ∧ s.toList = done.reverse ++ chars ∧
      input = text.map some ++ some '"' :: rest := by
  fun_induction stringOnto done input with
  | case1 | case2 | case4 | case5 | case7 | case8 | case11 | case12 | case13 =>
      cases h
  | case3 done rest' =>
      injection h with h
      injection h with hs hr
      subst hs hr
      exact ⟨[], [], .nil, by rw [String.toList_ofList, List.append_nil], rfl⟩
  | case6 done a b c d n hn hlow hhigh e f g h' rest' x hx hne ih =>
      obtain ⟨m, hm, hpair⟩ := Option.bind_eq_some_iff.mp hx
      obtain ⟨text, chars, hspells, hs, hinput⟩ := ih h
      obtain ⟨digits, hcode, hdigits⟩ := hexCode_of_code? hn
      obtain ⟨digits', hcode', hdigits'⟩ := hexCode_of_code? hm
      obtain ⟨i, j, rfl, rfl, hlt, hc⟩ := halves_of_paired? hhigh hpair
      refine ⟨_, x :: chars, .halves hcode hcode' hlt hc hspells, ?_, ?_⟩
      · rw [hs, Text.reverse_cons_append]
      · simp only [List.map_cons, List.map_append, ← hdigits, ← hdigits', hinput]
        rfl
  | case9 done a b c d rest' n hn hlow hhigh hne ih =>
      -- four digits that are no half of a pair are the number of a character
      obtain ⟨text, chars, hspells, hs, hinput⟩ := ih h
      obtain ⟨digits, hcode, hdigits⟩ := hexCode_of_code? hn
      have hvalid : n.isValidChar := by
        have hlt := hcode.lt
        simp only [isHighHalf, isLowHalf, Bool.and_eq_true, decide_eq_true_eq] at hhigh hlow
        rw [Nat.isValidChar]
        omega
      have hchar : (Char.ofNat n).toNat = n := by rw [Char.toNat_ofNat, if_pos hvalid]
      rw [← hchar] at hcode
      refine ⟨_, Char.ofNat n :: chars, .code hcode hspells, ?_, ?_⟩
      · rw [hs, Text.reverse_cons_append]
      · simp only [List.map_cons, List.map_append, ← hdigits, hinput]
        rfl
  | case10 done letter rest' _ x hx _ ih =>
      obtain ⟨text, chars, hspells, hs, hinput⟩ := ih h
      refine ⟨_, x :: chars, .short (letter_of_escaped? hx) hspells, ?_, ?_⟩
      · rw [hs, Text.reverse_cons_append]
      · rw [hinput]
        rfl
  | case14 done first rest' hq hb hc ih =>
      obtain ⟨text, chars, hspells, hs, hinput⟩ := ih h
      refine ⟨_, first :: chars, .plain hq hb (Nat.not_lt.mp hc) hspells, ?_, ?_⟩
      · rw [hs, Text.reverse_cons_append]
      · rw [hinput]
        rfl

theorem spells_of_string? {input rest : Pieces} {s : String}
    (h : string? input = some (s, rest)) :
    ∃ text, Spells text s.toList ∧ input = text.map some ++ some '"' :: rest := by
  obtain ⟨text, chars, hspells, hs, hinput⟩ := spells_of_stringOnto h
  rw [List.reverse_nil, List.nil_append] at hs
  rw [hs]
  exact ⟨text, hspells, hinput⟩

/-! ## Blanks and words -/

theorem char_of_isBlank {p : Option Char} (h : isBlank p = true) :
    ∃ c, p = some c ∧ (c = ' ' ∨ c = '\t' ∨ c = '\n' ∨ c = '\r') := by
  simp only [isBlank, Bool.or_eq_true, decide_eq_true_eq, or_assoc] at h
  obtain h | h | h | h := h
  · exact ⟨_, h, .inl rfl⟩
  · exact ⟨_, h, .inr (.inl rfl)⟩
  · exact ⟨_, h, .inr (.inr (.inl rfl))⟩
  · exact ⟨_, h, .inr (.inr (.inr rfl))⟩

theorem eq_blank_append_skipBlank (input : Pieces) :
    ∃ blank, Blank blank ∧ input = blank.map some ++ skipBlank input := by
  induction input with
  | nil => exact ⟨[], blank_nil, rfl⟩
  | cons p rest ih =>
      rw [skipBlank, List.dropWhile_cons]
      split
      · rename_i hp
        obtain ⟨blank, hblank, hrest⟩ := ih
        obtain ⟨c, rfl, hc⟩ := char_of_isBlank hp
        refine ⟨c :: blank, ?_, ?_⟩
        · intro d hd
          obtain rfl | hd := List.mem_cons.mp hd
          · exact hc
          · exact hblank d hd
        · rw [List.map_cons, List.cons_append, ← skipBlank, ← hrest]
      · exact ⟨[], blank_nil, rfl⟩

theorem eq_blank_append {input rest : Pieces} {p : Option Char}
    (h : skipBlank input = p :: rest) :
    ∃ blank, Blank blank ∧ input = blank.map some ++ p :: rest := by
  rw [← h]
  exact eq_blank_append_skipBlank input

theorem eq_word_append {word : String} {input rest : Pieces}
    (h : word? word input = some rest) : input = word.toList.map some ++ rest := by
  rw [word?] at h
  split at h
  · rename_i hprefix
    injection h with h
    obtain ⟨tail, htail⟩ := List.isPrefixOf_iff_prefix.mp hprefix
    rw [← htail, ← String.length_toList, ← List.length_map some, List.drop_left] at h
    rw [← htail, h]
  · cases h

theorem spellsKey_of_key? {input rest : Pieces} {key : String}
    (h : key? input = some (key, rest)) :
    ∃ name, SpellsKey name key ∧ input = name.map some ++ rest := by
  rw [key?] at h
  split at h
  · cases h
  · rename_i s after hname
    obtain ⟨rest', hcolon, heq⟩ := Option.map_eq_some_iff.mp h
    injection heq with hs hr
    subst hs hr
    rw [name?.eq_def] at hname
    split at hname
    · rename_i inner
      obtain ⟨text, hspells, hinner⟩ := spells_of_string? hname
      rw [colon?] at hcolon
      split at hcolon
      · rename_i tail hskip
        injection hcolon with hcolon
        subst hcolon
        obtain ⟨blank, hblank, hafter⟩ := eq_blank_append hskip
        refine ⟨_, .mk hspells hblank, ?_⟩
        rw [hinner, hafter]
        simp
      · cases hcolon
    · cases hname

/-! ## Numbers -/

theorem digitChar_of_digit? {p : Option Char} {d : Nat} (h : digit? p = some d) :
    p = some d.digitChar ∧ d < 10 := by
  cases p with
  | none => cases h
  | some c =>
      rw [digit?] at h
      simp only [Text.char_le_iff, Bool.and_eq_true, decide_eq_true_eq,
        Char.reduceToNat] at h
      split at h
      · rename_i hrange
        injection h with h
        have hlt : d < 10 := by omega
        refine ⟨?_, hlt⟩
        rw [Option.some.injEq, ← Char.toNat_inj, Nat.toNat_digitChar_of_lt_ten hlt]
        omega
      · cases h

/-- Digits stand before what is left behind them. -/
theorem eq_digits_append (input : Pieces) :
    input = ((digits input).1.map Nat.digitChar).map some ++ (digits input).2 ∧
      ∀ d ∈ (digits input).1, d < 10 := by
  induction input with
  | nil => exact ⟨rfl, fun d hd => by cases hd⟩
  | cons p rest ih =>
      cases hp : digit? p with
      | none =>
          have hnone : NoDigit (p :: rest) := by
            intro q tail heq
            injection heq with heq _
            rw [← heq, hp]
          rw [digits_of_noDigit hnone]
          exact ⟨rfl, fun d hd => by cases hd⟩
      | some d =>
          obtain ⟨rfl, hlt⟩ := digitChar_of_digit? hp
          obtain ⟨hrest, hds⟩ := ih
          rw [digits_cons hp]
          refine ⟨?_, ?_⟩
          · rw [List.map_cons, List.map_cons, List.cons_append, ← hrest]
          · intro e he
            obtain rfl | he := List.mem_cons.mp he
            · exact hlt
            · exact hds e he

theorem spells_of_fraction? {input rest : Pieces} {ds : List Nat}
    (h : fraction? input = some (ds, rest)) :
    ∃ text, SpellsFraction text ds ∧ input = text.map some ++ rest := by
  rw [fraction?.eq_def] at h
  split at h
  · rename_i tail
    obtain ⟨htail, hds⟩ := eq_digits_append tail
    split at h
    · cases h
    · rename_i hne
      injection h with h
      rw [h] at htail hds
      refine ⟨_, .present ?_ hds, ?_⟩
      · rintro rfl
        exact hne _ h
      · rw [htail]
        rfl
  · injection h with h
    injection h with hds hr
    subst hds hr
    exact ⟨[], .absent, rfl⟩

/-- A list is what stands in front of it and what is left without that. -/
theorem eq_cons_drop_of_head? {p : Option Char} {input : Pieces}
    (h : input.head? = some p) : input = p :: input.drop 1 := by
  cases input with
  | nil => cases h
  | cons q rest =>
      injection h with h
      rw [h]
      rfl

theorem spells_of_exponent? {input rest : Pieces} {exponent : Option (Bool × List Nat)}
    (h : exponent? input = some (exponent, rest)) :
    ∃ text, SpellsExponent text exponent ∧ input = text.map some ++ rest := by
  rw [exponent?.eq_def] at h
  split at h
  · rename_i mark tail
    split at h
    · rename_i hmark
      have hmark : mark = 'e' ∨ mark = 'E' := by
        simpa only [Bool.or_eq_true, decide_eq_true_eq] using hmark
      simp only [] at h
      generalize hsigned : (if (decide (tail.head? = some (some '-')) ||
        decide (tail.head? = some (some '+'))) = true then tail.drop 1 else tail) =
          unsigned at h
      obtain ⟨hunsigned, hds⟩ := eq_digits_append unsigned
      split at h
      · cases h
      · rename_i ds after hne hread
        injection h with h
        injection h with hexponent hr
        subst hexponent hr
        rw [hread] at hunsigned hds
        -- the sign tells which of the three forms it is
        by_cases hminus : tail.head? = some (some '-')
        · rw [decide_eq_true hminus, Bool.true_or, if_pos rfl] at hsigned
          rw [decide_eq_true hminus, eq_cons_drop_of_head? hminus, hsigned, hunsigned]
          exact ⟨_, .minus hmark hne hds, rfl⟩
        · rw [decide_eq_false hminus, Bool.false_or] at hsigned
          rw [decide_eq_false hminus]
          by_cases hplus : tail.head? = some (some '+')
          · rw [decide_eq_true hplus, if_pos rfl] at hsigned
            rw [eq_cons_drop_of_head? hplus, hsigned, hunsigned]
            exact ⟨_, .plus hmark hne hds, rfl⟩
          · rw [decide_eq_false hplus, if_neg (by decide)] at hsigned
            rw [hsigned, hunsigned]
            exact ⟨_, .unsigned hmark hne hds, rfl⟩
    · injection h with h
      injection h with hexponent hr
      subst hexponent hr
      exact ⟨[], .absent, rfl⟩
  · injection h with h
    injection h with hexponent hr
    subst hexponent hr
    exact ⟨[], .absent, rfl⟩

theorem spells_of_numeral? {input rest : Pieces} {n : Numeral}
    (h : numeral? input = some (n, rest)) :
    ∃ text, SpellsNumeral text n ∧ input = text.map some ++ rest := by
  rw [numeral?] at h
  simp only [] at h
  generalize hsigned : (if input.head? = some (some '-') then input.drop 1
    else input) = unsigned at h
  obtain ⟨hunsigned, hds⟩ := eq_digits_append unsigned
  split at h
  · cases h
  · rename_i hwhole
    obtain ⟨⟨fraction, afterFraction⟩, hf, h⟩ := Option.bind_eq_some_iff.mp h
    obtain ⟨⟨exponent, afterExponent⟩, he, h⟩ := Option.bind_eq_some_iff.mp h
    injection h with h
    injection h with hn hr
    subst hn hr
    obtain ⟨fractionText, hfraction, hafter⟩ := spells_of_fraction? hf
    obtain ⟨exponentText, hexponent, hrest⟩ := spells_of_exponent? he
    simp only [Bool.or_eq_true, Bool.and_eq_true, decide_eq_true_eq, not_or, not_and,
      List.isEmpty_iff, ne_eq, Decidable.not_not] at hwhole
    obtain ⟨hne, hzero⟩ := hwhole
    have hzero : (digits unsigned).1.head? = some 0 → (digits unsigned).1 = [0] := by
      intro hhead
      obtain ⟨d, hd⟩ := List.length_eq_one_iff.mp (hzero hhead)
      rw [hd, List.head?_cons] at hhead
      injection hhead with hhead
      rw [hd, hhead]
    refine ⟨_, .mk hne hds hzero hfraction hexponent, ?_⟩
    have hinput : input = (if decide (input.head? = some (some '-')) = true then ['-']
        else []).map some ++ unsigned := by
      rw [← hsigned]
      by_cases hminus : input.head? = some (some '-')
      · rw [if_pos (decide_eq_true hminus), if_pos hminus]
        exact eq_cons_drop_of_head? hminus
      · rw [if_neg (by rw [decide_eq_false hminus]; decide), if_neg hminus]
        rfl
    simp only [] at hrest
    rw [List.map_append, List.map_append, List.map_append, List.append_assoc,
      List.append_assoc, List.append_assoc, ← hrest, ← hafter, ← hunsigned]
    exact hinput

/-! ## Values -/

/-- What is derived as a phrase is written as that phrase. -/
theorem written_of_derives {phrase : Phrase} {input rest : Pieces}
    (h : Derives phrase input rest) :
    ∃ text, Written phrase text ∧ input = text.map some ++ rest := by
  induction h with
  | string h =>
      obtain ⟨text, hspells, hinput⟩ := spells_of_string? h
      refine ⟨_, .string hspells, ?_⟩
      rw [hinput]
      simp
  | null h => exact ⟨_, .null, eq_word_append h⟩
  | true h => exact ⟨_, .true, eq_word_append h⟩
  | false h => exact ⟨_, .false, eq_word_append h⟩
  | number h hn =>
      obtain ⟨text, hspells, hinput⟩ := spells_of_numeral? h
      exact ⟨text, .number hspells hn, hinput⟩
  | emptyArray hclose =>
      obtain ⟨blank, hblank, hinput⟩ := eq_blank_append hclose
      refine ⟨_, .emptyArray hblank, ?_⟩
      rw [hinput]
      simp
  | @array vs input rest hne _ ih =>
      obtain ⟨text, hitems, hskip⟩ := ih
      obtain ⟨blank, hblank, hinput⟩ := eq_blank_append_skipBlank input
      refine ⟨_, .array hblank hitems, ?_⟩
      rw [hinput, hskip]
      simp
  | emptyObject hclose =>
      obtain ⟨blank, hblank, hinput⟩ := eq_blank_append hclose
      refine ⟨_, .emptyObject hblank, ?_⟩
      rw [hinput]
      simp
  | @object ms input rest hne _ ih =>
      obtain ⟨text, hmembers, hskip⟩ := ih
      obtain ⟨blank, hblank, hinput⟩ := eq_blank_append_skipBlank input
      refine ⟨_, .object hblank hmembers, ?_⟩
      rw [hinput, hskip]
      simp
  | lastItem _ hend ih =>
      obtain ⟨text, hvalue, hinput⟩ := ih
      obtain ⟨blank, hblank, hafter⟩ := eq_blank_append hend
      refine ⟨_, .lastItem hvalue hblank, ?_⟩
      rw [hinput, hafter]
      simp
  | @nextItem v vs input after next rest _ hsep _ ih ihs =>
      obtain ⟨text, hvalue, hinput⟩ := ih
      obtain ⟨texts, hitems, hskip⟩ := ihs
      obtain ⟨blank, hblank, hafter⟩ := eq_blank_append hsep
      obtain ⟨blank', hblank', hnext⟩ := eq_blank_append_skipBlank next
      refine ⟨_, .nextItem hvalue hblank hblank' hitems, ?_⟩
      rw [hinput, hafter, hnext, hskip]
      simp
  | @lastMember key v input inner after rest hk _ hend ih =>
      obtain ⟨name, hname, hinput⟩ := spellsKey_of_key? hk
      obtain ⟨text, hvalue, hskip⟩ := ih
      obtain ⟨blank, hblank, hinner⟩ := eq_blank_append_skipBlank inner
      obtain ⟨blank', hblank', hafter⟩ := eq_blank_append hend
      refine ⟨_, .lastMember hname hblank hvalue hblank', ?_⟩
      rw [hinput, hinner, hskip, hafter]
      simp
  | @nextMember key v ms input inner after next rest hk _ hsep _ ih ihs =>
      obtain ⟨name, hname, hinput⟩ := spellsKey_of_key? hk
      obtain ⟨text, hvalue, hskip⟩ := ih
      obtain ⟨texts, hmembers, hskips⟩ := ihs
      obtain ⟨blank, hblank, hinner⟩ := eq_blank_append_skipBlank inner
      obtain ⟨blank', hblank', hafter⟩ := eq_blank_append hsep
      obtain ⟨blank'', hblank'', hnext⟩ := eq_blank_append_skipBlank next
      refine ⟨_, .nextMember hname hblank hvalue hblank' hblank'' hmembers, ?_⟩
      rw [hinput, hinner, hskip, hafter, hnext, hskips]
      simp

theorem document_of_ofBytes? {bytes : List UInt8} {v : Value}
    (h : Value.ofBytes? bytes = some v) :
    ∃ text, bytes = Text.utf8 text ∧ Document v text ∧ v.within maxDepth = true := by
  obtain ⟨rest, hderives, hend, hdepth⟩ := derives_of_ofPieces? h
  obtain ⟨inner, hinner, hskip⟩ := written_of_derives hderives
  obtain ⟨before, hbefore, hinput⟩ := eq_blank_append_skipBlank (Text.pieces bytes)
  obtain ⟨after, hafter, hrest⟩ := eq_blank_append_skipBlank rest
  rw [List.isEmpty_iff.mp hend, List.append_nil] at hrest
  have hpieces : Text.pieces bytes = (before ++ (inner ++ after)).map some := by
    rw [hinput, hskip, hrest]
    simp
  refine ⟨String.ofList (before ++ (inner ++ after)), Text.eq_utf8_of_pieces hpieces,
    ⟨before, inner, after, hbefore, hinner, hafter, String.toList_ofList⟩, hdepth⟩

/-- The bytes that are read as a value are the encodings of its documents, and
the value is nested no deeper than the reader goes. -/
theorem ofBytes?_eq_some_iff {bytes : List UInt8} {v : Value} :
    Value.ofBytes? bytes = some v ↔
      v.within maxDepth = true ∧ ∃ text, bytes = Text.utf8 text ∧ Document v text := by
  constructor
  · intro h
    obtain ⟨text, hbytes, hdocument, hdepth⟩ := document_of_ofBytes? h
    exact ⟨hdepth, text, hbytes, hdocument⟩
  · rintro ⟨hdepth, text, rfl, hdocument⟩
    exact ofBytes?_of_document hdocument hdepth

end FaultGate.Json
