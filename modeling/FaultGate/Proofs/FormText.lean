import FaultGate.Proofs.Text.Hexadecimal
import FaultGate.Proofs.Text.Utf8
import Mathlib.Data.List.TakeWhile

/-!
# What form text stands for

The reader of form text cuts it up and undoes the escapes of each part. This
file says the same from the other side, as a grammar: in how many ways a byte
can be spelled, what a pair looks like, and what may stand between two pairs.
Every text is a form text, since an escape that is none stands for itself; so
the grammar has to be total as well as unambiguous, and `decode_eq_iff` says that
the reader is exactly this grammar.

The grammar is about bytes. Texts come in at the last step, where the bytes of a
key and of a value are read as UTF-8 and broken pieces of it are replaced, and
`spellsPair_of_strings` is the case in which nothing is broken.
-/

namespace FaultGate.Form

open FaultGate.Text (HexDigit)

/-! ## Bytes -/

/-- Two hexadecimal digits come next. -/
def StartsWithDigits (text : List UInt8) : Prop :=
  ∃ c d rest i j, text = c :: d :: rest ∧ HexDigit c.toNat i ∧ HexDigit d.toNat j

/-- A piece of form text, and the bytes that it stands for. A byte stands for
itself unless it is a plus sign or the percent sign of an escape; any byte at all
can be escaped. -/
inductive Spells : List UInt8 → List UInt8 → Prop where
  | nil : Spells [] []
  | plain {b : UInt8} {text bytes : List UInt8} (hplus : b ≠ 0x2b) (hpercent : b ≠ 0x25)
      (h : Spells text bytes) : Spells (b :: text) (b :: bytes)
  | plus {text bytes : List UInt8} (h : Spells text bytes) :
      Spells (0x2b :: text) (0x20 :: bytes)
  | escape {c d b : UInt8} {i j : Nat} {text bytes : List UInt8}
      (hc : HexDigit c.toNat i) (hd : HexDigit d.toNat j) (hb : b.toNat = i * 16 + j)
      (h : Spells text bytes) : Spells (0x25 :: c :: d :: text) (b :: bytes)
  | percent {text bytes : List UInt8} (hdigits : ¬ StartsWithDigits text)
      (h : Spells text bytes) : Spells (0x25 :: text) (0x25 :: bytes)

theorem hexValue?_of_hexDigit {b : UInt8} {n : Nat} (h : HexDigit b.toNat n) :
    hexValue? b = some (UInt8.ofNat n) := by
  have hlt := h.lt
  rw [hexValue?_eq_some_iff, UInt8.toNat_ofNat', Nat.mod_eq_of_lt (by omega)]
  exact h

theorem unescapeOnto_plain {b : UInt8} (hb : b ≠ 0x25) (done rest : List UInt8) :
    unescapeOnto done (b :: rest) = unescapeOnto (plainByte b :: done) rest := by
  match rest with
  | [] => rw [unescapeOnto, unescapeOnto]
  | [_] => rw [unescapeOnto, unescapeOnto]
  | _ :: _ :: _ => rw [unescapeOnto, if_neg hb]

theorem unescapeOnto_escape {c d b : UInt8} {i j : Nat} (hc : HexDigit c.toNat i)
    (hd : HexDigit d.toNat j) (hb : b.toNat = i * 16 + j) (done rest : List UInt8) :
    unescapeOnto done (0x25 :: c :: d :: rest) = unescapeOnto (b :: done) rest := by
  have hi := hc.lt
  have hj := hd.lt
  have hvalue : UInt8.ofNat i * 16 + UInt8.ofNat j = b := by
    have hsixteen : (16 : UInt8).toNat = 16 := rfl
    rw [← UInt8.toNat_inj, UInt8.toNat_add, UInt8.toNat_mul, UInt8.toNat_ofNat',
      UInt8.toNat_ofNat', hsixteen, hb]
    omega
  rw [unescapeOnto, if_pos rfl, hexValue?_of_hexDigit hc, hexValue?_of_hexDigit hd]
  simp only [hvalue]

theorem unescapeOnto_percent {text : List UInt8} (h : ¬ StartsWithDigits text)
    (done : List UInt8) :
    unescapeOnto done (0x25 :: text) = unescapeOnto (0x25 :: done) text := by
  match text with
  | [] => rw [unescapeOnto, unescapeOnto]; rfl
  | [_] => rw [unescapeOnto, unescapeOnto]; rfl
  | c :: d :: rest =>
      rw [unescapeOnto, if_pos rfl]
      split
      · rename_i high low hhigh hlow
        exact absurd ⟨c, d, rest, high.toNat, low.toNat, rfl, hexValue?_eq_some_iff.mp hhigh,
          hexValue?_eq_some_iff.mp hlow⟩ h
      · rfl

/-- The induction is on the spelling; what was read before stands in the
accumulator, last one first. -/
theorem unescapeOnto_of_spells {text bytes : List UInt8} (h : Spells text bytes)
    (done : List UInt8) : unescapeOnto done text = done.reverse ++ bytes := by
  induction h generalizing done with
  | nil => rw [unescapeOnto, List.append_nil]
  | plain hplus hpercent _ ih =>
      rw [unescapeOnto_plain hpercent, plainByte, if_neg hplus, ih, Text.reverse_cons_append]
  | plus _ ih =>
      rw [unescapeOnto_plain (by decide), plainByte, if_pos rfl, ih, Text.reverse_cons_append]
  | escape hc hd hb _ ih =>
      rw [unescapeOnto_escape hc hd hb, ih, Text.reverse_cons_append]
  | percent hdigits _ ih =>
      rw [unescapeOnto_percent hdigits, ih, Text.reverse_cons_append]

theorem decodePiece_of_spells {text bytes : List UInt8} (h : Spells text bytes) :
    decodePiece text = Text.decodeLossy bytes := by
  rw [decodePiece, unescape, unescapeOnto_of_spells h, List.reverse_nil, List.nil_append]

/-- Every text spells some bytes. The recursion follows the escapes, which take
three bytes at a time. -/
theorem exists_spells : ∀ text : List UInt8, ∃ bytes, Spells text bytes
  | [] => ⟨[], .nil⟩
  | b :: text => by
      by_cases hpercent : b = 0x25
      · subst hpercent
        by_cases hdigits : StartsWithDigits text
        · obtain ⟨c, d, rest, i, j, rfl, hc, hd⟩ := hdigits
          obtain ⟨bytes, hrest⟩ := exists_spells rest
          have hi := hc.lt
          have hj := hd.lt
          have hb : (UInt8.ofNat (i * 16 + j)).toNat = i * 16 + j := by
            rw [UInt8.toNat_ofNat', Nat.mod_eq_of_lt (by omega)]
          exact ⟨_, .escape hc hd hb hrest⟩
        · obtain ⟨bytes, htext⟩ := exists_spells text
          exact ⟨_, .percent hdigits htext⟩
      · obtain ⟨bytes, htext⟩ := exists_spells text
        by_cases hplus : b = 0x2b
        · subst hplus
          exact ⟨_, .plus htext⟩
        · exact ⟨_, .plain hplus hpercent htext⟩

/-! ## Pairs -/

/-- The text of a pair: a key, and after the first equals sign a value. Without
an equals sign the value is empty. -/
inductive SpellsPair : List UInt8 → String × String → Prop where
  | bare {key bytes : List UInt8} (hkey : 0x3d ∉ key) (h : Spells key bytes) :
      SpellsPair key (Text.decodeLossy bytes, "")
  | assigned {key value bytes bytes' : List UInt8} (hkey : 0x3d ∉ key)
      (h : Spells key bytes) (h' : Spells value bytes') :
      SpellsPair (key ++ 0x3d :: value) (Text.decodeLossy bytes, Text.decodeLossy bytes')

theorem decodePair_of_spells {text : List UInt8} {pair : String × String}
    (h : SpellsPair text pair) : decodePair text = pair := by
  have hall : ∀ {key : List UInt8}, 0x3d ∉ key →
      ∀ b ∈ key, (!isAssignment b) = true := by
    intro key hkey b hb
    have hne : b ≠ 0x3d := fun heq => hkey (heq ▸ hb)
    rw [isAssignment, decide_eq_false hne]
    rfl
  cases h with
  | bare hkey h =>
      rw [decodePair, List.takeWhile_eq_self_iff.mpr (hall hkey),
        List.dropWhile_eq_nil_iff.mpr (hall hkey), decodePiece_of_spells h]
      rfl
  | assigned hkey h h' =>
      rw [decodePair, List.takeWhile_append_of_pos (hall hkey),
        List.dropWhile_append_of_pos (hall hkey), List.takeWhile_cons_of_neg (by decide),
        List.dropWhile_cons_of_neg (by decide), List.append_nil, List.drop_succ_cons,
        List.drop_zero, decodePiece_of_spells h, decodePiece_of_spells h']

theorem exists_spellsPair (text : List UInt8) : ∃ pair, SpellsPair text pair := by
  by_cases hassign : 0x3d ∈ text
  · obtain ⟨key, value, rfl, hkey⟩ := List.eq_append_cons_of_mem hassign
    obtain ⟨bytes, h⟩ := exists_spells key
    obtain ⟨bytes', h'⟩ := exists_spells value
    exact ⟨_, .assigned hkey h h'⟩
  · obtain ⟨bytes, h⟩ := exists_spells text
    exact ⟨_, .bare hassign h⟩

/-- Any two texts are the key and the value of the pairs that spell them. -/
theorem spellsPair_of_strings {key value : List UInt8} {k v : String}
    (hkey : 0x3d ∉ key) (h : Spells key (Text.utf8 k))
    (h' : Spells value (Text.utf8 v)) : SpellsPair (key ++ 0x3d :: value) (k, v) := by
  have hpair := SpellsPair.assigned hkey h h'
  rw [Text.decodeLossy_utf8, Text.decodeLossy_utf8] at hpair
  exact hpair

/-! ## Whole texts -/

/-- A form text and its pairs: pieces with an ampersand between any two of them,
where an empty piece is no pair. -/
inductive Encodes : List UInt8 → List (String × String) → Prop where
  | nil : Encodes [] []
  | last {piece : List UInt8} {pair : String × String} (hne : piece ≠ [])
      (hpiece : 0x26 ∉ piece) (h : SpellsPair piece pair) : Encodes piece [pair]
  | next {piece text : List UInt8} {pair : String × String} {pairs : List (String × String)}
      (hne : piece ≠ []) (hpiece : 0x26 ∉ piece) (h : SpellsPair piece pair)
      (hs : Encodes text pairs) : Encodes (piece ++ 0x26 :: text) (pair :: pairs)
  | skip {text : List UInt8} {pairs : List (String × String)} (hs : Encodes text pairs) :
      Encodes (0x26 :: text) pairs

theorem isSeparator_of_not_mem {piece : List UInt8} (h : 0x26 ∉ piece) :
    ∀ b ∈ piece, isSeparator b = false := by
  intro b hb
  have hne : b ≠ 0x26 := fun heq => h (heq ▸ hb)
  rw [isSeparator, decide_eq_false hne]

theorem decode_single {piece : List UInt8} (h : 0x26 ∉ piece) (hne : piece ≠ []) :
    decode piece = [decodePair piece] := by
  rw [decode, List.splitOnP_eq_singleton (isSeparator_of_not_mem h), List.filter_cons_of_pos
    (by rw [List.isEmpty_eq_false_iff.mpr hne]; rfl)]
  rfl

theorem decode_cons {piece : List UInt8} (h : 0x26 ∉ piece) (hne : piece ≠ [])
    (text : List UInt8) : decode (piece ++ 0x26 :: text) = decodePair piece :: decode text := by
  rw [decode, List.splitOnP_append_cons_of_forall_mem (isSeparator_of_not_mem h) 0x26 rfl,
    List.filter_cons_of_pos (by rw [List.isEmpty_eq_false_iff.mpr hne]; rfl), List.map_cons,
    ← decode]

theorem decode_skip (text : List UInt8) : decode (0x26 :: text) = decode text := by
  have hsplit := List.splitOnP_append_cons_of_forall_mem
    (isSeparator_of_not_mem List.not_mem_nil) 0x26 rfl text
  rw [List.nil_append] at hsplit
  rw [decode, hsplit, List.filter_cons_of_neg (by decide), ← decode]

theorem decode_of_encodes {text : List UInt8} {pairs : List (String × String)}
    (h : Encodes text pairs) : decode text = pairs := by
  induction h with
  | nil => rfl
  | last hne hpiece h => rw [decode_single hpiece hne, decodePair_of_spells h]
  | next hne hpiece h _ ih => rw [decode_cons hpiece hne, decodePair_of_spells h, ih]
  | skip _ ih => rw [decode_skip, ih]

/-- Every text is a form text. The recursion cuts off a piece and its ampersand. -/
theorem exists_encodes (text : List UInt8) : ∃ pairs, Encodes text pairs := by
  by_cases hamp : 0x26 ∈ text
  · obtain ⟨piece, rest, htext, hpiece⟩ := List.eq_append_cons_of_mem hamp
    have hshort : rest.length < text.length := by
      rw [htext, List.length_append, List.length_cons]
      omega
    obtain ⟨pairs, hrest⟩ := exists_encodes rest
    rw [htext]
    by_cases hne : piece = []
    · rw [hne]
      exact ⟨pairs, .skip hrest⟩
    · obtain ⟨pair, hpair⟩ := exists_spellsPair piece
      exact ⟨pair :: pairs, .next hne hpiece hpair hrest⟩
  · by_cases hne : text = []
    · rw [hne]
      exact ⟨[], .nil⟩
    · obtain ⟨pair, hpair⟩ := exists_spellsPair text
      exact ⟨[pair], .last hne hamp hpair⟩
termination_by text.length

/-- A text is decoded to the pairs that it encodes, and to no others. -/
theorem decode_eq_iff {text : List UInt8} {pairs : List (String × String)} :
    decode text = pairs ↔ Encodes text pairs := by
  constructor
  · rintro rfl
    obtain ⟨pairs, h⟩ := exists_encodes text
    rw [decode_of_encodes h]
    exact h
  · exact decode_of_encodes

end FaultGate.Form
