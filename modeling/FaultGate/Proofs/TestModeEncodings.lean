import FaultGate.Proofs.Json.Writing
import FaultGate.Proofs.TestMode

/-!
# The encodings of the test-mode input agree

The same input can be written in a query, in a form and in a JSON object, and
each of them in many ways. What it comes to may depend on the key and the value
that are written and on nothing else: not on which bytes are escaped, in what
case, or on what stands beside the pair. This file says so for all texts that the
grammars of the three allow.

There is one difference, and it only shows where the input is repeated. A query
counts with its last value and a form with its first. Where there is one value
the three have to agree on what it means, and the JSON numbers have to agree with
their decimal text, though they are not compared as texts at all.
-/

namespace FaultGate.Inspection

open FaultGate.Http (Bytes Request Uri)
open FaultGate.Json (Document Value Written)

/-- The request has this text for a query. -/
def HasQuery (r : Request) (text : Bytes) : Prop :=
  ∃ query, r.uri.query = some query ∧ Text.utf8 query = text

/-- The body is read, as a form with this text. -/
def HasForm (r : Request) (text : Bytes) : Prop :=
  Announced r .form ∧ r.body = text

/-- The body is read, as a JSON text. -/
def HasJson (r : Request) (text : String) : Prop :=
  Announced r .json ∧ r.body = Text.utf8 text

/-! ## Every list of pairs is written by some query

Here everything is escaped, which makes the text one that may stand in a target.
-/

/-- A hexadecimal digit is one byte, and may stand anywhere in a query. -/
theorem exists_digit {n : Nat} (h : n < 16) :
    ∃ (c : Char) (b : UInt8), Uri.isQueryChar c = true ∧ String.utf8EncodeChar c = [b] ∧
      Text.HexDigit b.toNat n ∧ b ≠ 0x3d ∧ b ≠ 0x26 := by
  have hall : ∀ m < 16, Uri.isQueryChar (Json.hexDigit m) = true ∧
      String.utf8EncodeChar (Json.hexDigit m) = [UInt8.ofNat (Json.hexDigit m).toNat] ∧
      (UInt8.ofNat (Json.hexDigit m).toNat).toNat = (Json.hexDigit m).toNat ∧
      UInt8.ofNat (Json.hexDigit m).toNat ≠ 0x3d ∧
      UInt8.ofNat (Json.hexDigit m).toNat ≠ 0x26 := by
    decide
  obtain ⟨hquery, hencode, hvalue, hassign, hamp⟩ := hall n h
  refine ⟨_, _, hquery, hencode, ?_, hassign, hamp⟩
  rw [hvalue]
  exact Json.hexDigit_hexDigit h

/-- Any bytes can be spelled in characters that may stand in a query, with no
equals sign and no ampersand among them. -/
theorem exists_escaped (bytes : List UInt8) :
    ∃ chars : List Char, (∀ c ∈ chars, Uri.isQueryChar c = true) ∧
      Form.Spells (chars.flatMap String.utf8EncodeChar) bytes ∧
      0x3d ∉ chars.flatMap String.utf8EncodeChar ∧
      0x26 ∉ chars.flatMap String.utf8EncodeChar := by
  induction bytes with
  | nil => exact ⟨[], by simp, .nil, by simp, by simp⟩
  | cons b bytes ih =>
      obtain ⟨chars, hchars, hspells, hassign, hamp⟩ := ih
      have hlt := b.toNat_lt
      obtain ⟨c, x, hc, hx, hdigit, hxa, hxs⟩ := exists_digit (n := b.toNat / 16) (by omega)
      obtain ⟨d, y, hd, hy, hdigit', hya, hys⟩ := exists_digit (n := b.toNat % 16) (by omega)
      have htext : ('%' :: c :: d :: chars).flatMap String.utf8EncodeChar =
          0x25 :: x :: y :: chars.flatMap String.utf8EncodeChar := by
        have hpercent : String.utf8EncodeChar '%' = [0x25] := by decide
        simp only [List.flatMap_cons, hpercent, hx, hy, List.cons_append, List.nil_append]
      refine ⟨'%' :: c :: d :: chars, ?_, ?_, ?_, ?_⟩
      · simp only [List.forall_mem_cons]
        exact ⟨by decide, hc, hd, hchars⟩
      · rw [htext]
        exact .escape hdigit hdigit' (by omega) hspells
      · rw [htext]
        simp only [List.mem_cons, not_or]
        exact ⟨by decide, hxa.symm, hya.symm, hassign⟩
      · rw [htext]
        simp only [List.mem_cons, not_or]
        exact ⟨by decide, hxs.symm, hys.symm, hamp⟩

theorem exists_query (pairs : List (String × String)) :
    ∃ query : String, (∀ c ∈ query.toList, Uri.isQueryChar c = true) ∧
      Form.Encodes (Text.utf8 query) pairs := by
  induction pairs with
  | nil => exact ⟨"", by simp, .nil⟩
  | cons pair pairs ih =>
      obtain ⟨query, hquery, hencodes⟩ := ih
      obtain ⟨key, hkey, hspells, hassign, hamp⟩ := exists_escaped (Text.utf8 pair.1)
      obtain ⟨value, hvalue, hspells', _, hamp'⟩ := exists_escaped (Text.utf8 pair.2)
      have hpair := Form.spellsPair_of_strings hassign hspells hspells'
      -- an ampersand behind the last pair does no harm, so every pair has one
      refine ⟨String.ofList (key ++ '=' :: value ++ '&' :: query.toList), ?_, ?_⟩
      · intro c hc
        simp only [String.toList_ofList, List.mem_append, List.mem_cons] at hc
        obtain (hc | rfl | hc) | rfl | hc := hc
        · exact hkey c hc
        · decide
        · exact hvalue c hc
        · decide
        · exact hquery c hc
      · have hmark : String.utf8EncodeChar '=' = [0x3d] := by decide
        have hmark' : String.utf8EncodeChar '&' = [0x26] := by decide
        rw [Text.utf8_ofList, List.flatMap_append, List.flatMap_append, List.flatMap_cons,
          List.flatMap_cons, hmark, hmark', List.singleton_append, List.singleton_append]
        refine .next ?_ ?_ hpair hencodes
        · simp
        · simp only [List.mem_append, List.mem_cons, not_or]
          exact ⟨hamp, by decide, hamp'⟩

/-! ## One list of pairs, two places -/

theorem queryFlag?_of_encodes {r : Request} {text : Bytes} {pairs : List (String × String)}
    (hr : HasQuery r text) (h : Form.Encodes text pairs) :
    queryFlag? r = (valuesOf testModeInput pairs).getLast?.map flagValue := by
  obtain ⟨query, hquery, rfl⟩ := hr
  simp only [queryFlag?, hquery, Form.decode_of_encodes h, getLast?_valuesOf]

theorem bodyFlagOf?_of_encodes {r : Request} {text : Bytes} {pairs : List (String × String)}
    (hr : HasForm r text) (h : Form.Encodes text pairs) :
    bodyFlagOf? r = (valuesOf testModeInput pairs).head?.map flagValue := by
  obtain ⟨hannounced, rfl⟩ := hr
  rw [bodyFlagOf?, format?_eq_some_iff.mpr hannounced, Option.bind_some, bodyFlag?, formFlag?,
    Form.decode_of_encodes h, head?_valuesOf]

theorem bodyFlagOf?_of_document {r : Request} {text : String}
    {members : List (String × Value)} (hr : HasJson r text)
    (h : Document (.object members) text)
    (hdepth : (Value.object members).within Json.maxDepth = true) :
    bodyFlagOf? r = (valuesOf testModeInput members).getLast?.map jsonFlag := by
  obtain ⟨hannounced, hbody⟩ := hr
  rw [bodyFlagOf?, format?_eq_some_iff.mpr hannounced, Option.bind_some, bodyFlag?, jsonFlag?,
    hbody, Json.ofBytes?_of_document h hdepth, Option.bind_some, Value.member?,
    getLast?_valuesOf]

/-! ## One value, three encodings -/

/-- In a query and in a form that hold the input once, with this value, it comes
to the flag. -/
def FormsGive (value : String) (flag : Bool) : Prop :=
  ∀ text pairs, Form.Encodes text pairs → valuesOf testModeInput pairs = [value] →
    (∀ r, HasQuery r text → queryFlag? r = some flag) ∧
      ∀ r, HasForm r text → bodyFlagOf? r = some flag

/-- In a document that is an object and holds the input once, with this value, it
comes to the flag. What else is in the object must not be nested deeper than the
reader goes. -/
def ObjectsGive (value : Value) (flag : Bool) : Prop :=
  ∀ text members, Document (.object members) text →
    (members = [(testModeInput, value)] ∨
      (Value.object members).within Json.maxDepth = true) →
    valuesOf testModeInput members = [value] →
    ∀ r, HasJson r text → bodyFlagOf? r = some flag

theorem formsGive (value : String) : FormsGive value (flagValue value) := by
  intro text pairs h hvalue
  refine ⟨fun r hr => ?_, fun r hr => ?_⟩
  · rw [queryFlag?_of_encodes hr h, hvalue]
    rfl
  · rw [bodyFlagOf?_of_encodes hr h, hvalue]
    rfl

theorem objectsGive {value : Value} (hscalar : value.within 0 = true) :
    ObjectsGive value (jsonFlag value) := by
  intro text members h hdepth hvalue r hr
  have hdepth : (Value.object members).within Json.maxDepth = true := by
    obtain rfl | hdepth := hdepth
    · have hin := @Json.Phrase.within_scalar value 126 hscalar
      exact Json.Phrase.within_nextMember hin rfl
    · exact hdepth
  rw [bodyFlagOf?_of_document hr h hdepth, hvalue]
  rfl

theorem flagValue_eq_false_iff {text : String} :
    flagValue text = false ↔ text = "" ∨ text = "0" := by
  rw [← Bool.not_eq_true, flagValue_eq_true_iff, not_and_or, not_not, not_not]

theorem eq_zero_of_repr {n : Nat} (h : Nat.repr n = "0") : n = 0 := by
  have hdigits : Nat.toDigits 10 n = ['0'] := by
    rw [← Nat.toList_repr, h]
    rfl
  calc
    n = Nat.ofDigitChars 10 (Nat.toDigits 10 n) 0 := Nat.ofDigitChars_ten_toDigits.symm
    _ = Nat.ofDigitChars 10 ['0'] 0 := by rw [hdigits]
    _ = 0 := rfl

/-- A number in decimal is a text that is not empty, and zero is the only one
that is written as a zero. -/
theorem flagValue_repr_eq_false_iff {n : Int} : flagValue n.repr = false ↔ n = 0 := by
  rw [flagValue_eq_false_iff]
  cases n with
  | ofNat n =>
      constructor
      · rintro (h | h)
        · exact absurd h Nat.repr_ne_empty
        · rw [eq_zero_of_repr h]
          rfl
      · intro h
        rw [h]
        exact .inr rfl
  | negSucc n =>
      -- a negative number begins with its sign
      have hsign : (Int.negSucc n).repr.toList = '-' :: (Nat.repr (n + 1)).toList := by
        rw [Int.repr, String.toList_append]
        rfl
      constructor
      · rintro (h | h)
        · rw [h] at hsign
          cases hsign
        · rw [h] at hsign
          cases hsign
      · intro h
        cases h

theorem jsonFlag_integer (n : Int) :
    jsonFlag (.number (.integer n)) = flagValue n.repr := by
  cases h : flagValue n.repr with
  | false =>
      rw [flagValue_repr_eq_false_iff.mp h]
      rfl
  | true =>
      rw [jsonFlag_eq_true_iff]
      intro hno
      cases hno
      cases h

/-- Form text and JSON text agree on the test-mode input. Every list of pairs is
the meaning of some query, and whichever text it is the meaning of, the query
counts with its last input and a form with its first. An input that is there once
means the same in all three places, and no only if it is empty or a zero; and an
integer means what its decimal text means. -/
theorem encodings_agree :
    (∀ pairs, ∃ query : String, (∀ c ∈ query.toList, Uri.isQueryChar c = true) ∧
      Form.Encodes (Text.utf8 query) pairs) ∧
    (∀ text pairs, Form.Encodes text pairs →
      (∀ r, HasQuery r text →
        queryFlag? r = (valuesOf testModeInput pairs).getLast?.map flagValue) ∧
      (∀ r, HasForm r text →
        bodyFlagOf? r = (valuesOf testModeInput pairs).head?.map flagValue) ∧
      ((valuesOf testModeInput pairs).length ≤ 1 →
        ∀ r r', HasQuery r text → HasForm r' text → queryFlag? r = bodyFlagOf? r')) ∧
    (∀ value : String, ∃ flag, (flag = false ↔ value = "" ∨ value = "0") ∧
      FormsGive value flag ∧ ObjectsGive (.string value) flag) ∧
    (∀ n : Int, -(Nat.pow 2 63 : Int) ≤ n → n < (Nat.pow 2 64 : Int) →
      Written (.value (.number (.integer n))) n.repr.toList ∧
      ∃ flag, (flag = false ↔ n = 0) ∧ FormsGive n.repr flag ∧
        ObjectsGive (.number (.integer n)) flag) := by
  refine ⟨exists_query, ?_, ?_, ?_⟩
  · intro text pairs h
    refine ⟨fun r hr => queryFlag?_of_encodes hr h, fun r hr => bodyFlagOf?_of_encodes hr h,
      fun hlength r r' hr hr' => ?_⟩
    rw [queryFlag?_of_encodes hr h, bodyFlagOf?_of_encodes hr' h]
    cases hvalues : valuesOf testModeInput pairs with
    | nil => rfl
    | cons value values =>
        rw [hvalues, List.length_cons] at hlength
        rw [List.length_eq_zero_iff.mp (show values.length = 0 by omega)]
        rfl
  · intro value
    exact ⟨flagValue value, flagValue_eq_false_iff, formsGive value, objectsGive rfl⟩
  · intro n hlow hhigh
    have hobjects := @objectsGive (.number (.integer n)) rfl
    rw [jsonFlag_integer] at hobjects
    exact ⟨Json.written_integer hlow hhigh, flagValue n.repr, flagValue_repr_eq_false_iff,
      formsGive n.repr, hobjects⟩

end FaultGate.Inspection
