import FaultGate.Proofs.BodyInspection
import FaultGate.Proofs.ContentType
import Mathlib

/-!
# Which bodies are announced to be read

Two headers decide together whether a body is read and in which encoding. Each is
a text with more than one spelling, and each can be wrong in ways of its own: it is
not there, it is no text, it comes twice, its number is too great.

The spellings are changes to the bytes of a value, so that what is said of them
holds of values that cannot be read as well. One change is looked at by itself. It
shows in neither of the two things that are taken from the headers, the length and
the media type, and nothing else is taken from them. What any number of changes
leave alone is then an induction.
-/

namespace FaultGate.Inspection

open FaultGate.Http (Bytes Request)

/-! ## Changes to the headers -/

def lowerByte (b : UInt8) : UInt8 :=
  if 0x41 ≤ b ∧ b ≤ 0x5a then b + 0x20 else b

/-- A content type is written in another way: with letters in the other case, with
something else from a semicolon on, or with spaces and tabs before the media type
or after it. -/
inductive TypeRespelt : Bytes → Bytes → Prop
  | letterCase {value other : Bytes} (h : value.map lowerByte = other.map lowerByte) :
    TypeRespelt value other
  | parameters {media rest other : Bytes} (hrest : FromMark 0x3b rest)
    (hother : FromMark 0x3b other) (hvisible : ∀ b ∈ rest, Request.isVisibleByte b = true)
    (hvisible' : ∀ b ∈ other, Request.isVisibleByte b = true) :
    TypeRespelt (media ++ rest) (media ++ other)
  | gapBefore {gap value : Bytes} (hgap : ∀ b ∈ gap, b = 0x20 ∨ b = 0x09) :
    TypeRespelt value (gap ++ value)
  | gapAfter {media gap rest : Bytes} (hgap : ∀ b ∈ gap, b = 0x20 ∨ b = 0x09)
    (hrest : FromMark 0x3b rest) : TypeRespelt (media ++ rest) (media ++ gap ++ rest)

/-- A length is written with a plus sign before it or with one more zero. -/
inductive LengthRespelt : Bytes → Bytes → Prop
  | plus {digits : Bytes} (hdigits : ∀ b ∈ digits, 0x30 ≤ b ∧ b ≤ 0x39) :
    LengthRespelt digits (0x2b :: digits)
  | zero {digits : Bytes} (hne : digits ≠ []) (hdigits : ∀ b ∈ digits, 0x30 ≤ b ∧ b ≤ 0x39) :
    LengthRespelt digits (0x30 :: digits)

/-- One change to a list of headers: the first content type or the first length is
written in another way, or another header comes after the first one of its name. -/
inductive Respelt : List (String × Bytes) → List (String × Bytes) → Prop
  | contentType {before after : List (String × Bytes)} {value other : Bytes}
    (hfirst : valuesOf "content-type" before = []) (h : TypeRespelt value other) :
    Respelt (before ++ ("content-type", value) :: after)
      (before ++ ("content-type", other) :: after)
  | contentLength {before after : List (String × Bytes)} {value other : Bytes}
    (hfirst : valuesOf "content-length" before = []) (h : LengthRespelt value other) :
    Respelt (before ++ ("content-length", value) :: after)
      (before ++ ("content-length", other) :: after)
  | again {before after : List (String × Bytes)} {name : String} (value : Bytes)
    (hfirst : valuesOf name before ≠ []) :
    Respelt (before ++ after) (before ++ (name, value) :: after)

/-! ## What is taken from the two headers -/

def charsOf (value : Bytes) : List Char :=
  value.map fun b => Char.ofNat b.toNat

/-- The length in a value of its header. -/
def lengthIn? (value : Bytes) : Option Nat :=
  if value.all Request.isVisibleByte then Number.unsigned? UInt64.size (charsOf value) else none

/-- The media type in a value of its header. -/
def typeIn? (value : Bytes) : Option String :=
  if value.all Request.isVisibleByte then some (mediaType (String.ofList (charsOf value)))
  else none

theorem headerText?_eq (r : Request) (name : String) :
    r.headerText? name = (r.header? name).bind fun value =>
      if value.all Request.isVisibleByte then some (String.ofList (charsOf value)) else none := by
  rw [Request.headerText?]
  cases r.header? name <;> rfl

theorem announcedLength?_eq (r : Request) :
    announcedLength? r = (r.header? "content-length").bind lengthIn? := by
  rw [announcedLength?, headerText?_eq, Option.bind_assoc]
  refine Option.bind_congr fun value _ => ?_
  rw [lengthIn?]
  split
  · rw [Option.bind_some, String.toList_ofList]
  · rw [Option.bind_none]

theorem headerText?_bind_formatOf? (r : Request) :
    ((r.headerText? "content-type").bind fun text => formatOf? (mediaType text)) =
      ((r.header? "content-type").bind typeIn?).bind formatOf? := by
  rw [headerText?_eq, Option.bind_assoc, Option.bind_assoc]
  refine Option.bind_congr fun value _ => ?_
  rw [typeIn?]
  split
  · rw [Option.bind_some, Option.bind_some]
  · rw [Option.bind_none, Option.bind_none]

/-- The choice depends on the two first values only, and on them by what is taken
from each. -/
theorem format?_congr {r other : Request}
    (hlength : (other.header? "content-length").bind lengthIn? =
      (r.header? "content-length").bind lengthIn?)
    (htype : (other.header? "content-type").bind typeIn? =
      (r.header? "content-type").bind typeIn?) :
    format? other = format? r := by
  rw [format?, format?, headerText?_bind_formatOf?, headerText?_bind_formatOf?,
    announcedLength?_eq, announcedLength?_eq, hlength, htype]

/-! ## One change shows in neither -/

theorem charsOf_append (value other : Bytes) :
    charsOf (value ++ other) = charsOf value ++ charsOf other :=
  List.map_append

theorem FromMark.charsOf {rest : Bytes} (h : FromMark 0x3b rest) :
    FromMark ';' (charsOf rest) := by
  rcases h with rfl | ⟨tail, rfl⟩
  · exact .inl rfl
  · exact .inr ⟨_, rfl⟩

theorem isGap_charsOf {gap : Bytes} (hgap : ∀ b ∈ gap, b = 0x20 ∨ b = 0x09) :
    ∀ c ∈ charsOf gap, isGap c = true := by
  intro c hc
  obtain ⟨b, hb, rfl⟩ := List.mem_map.mp hc
  rcases hgap b hb with rfl | rfl <;> decide

theorem all_visible_of_gap {gap : Bytes} (hgap : ∀ b ∈ gap, b = 0x20 ∨ b = 0x09) :
    gap.all Request.isVisibleByte = true := by
  rw [List.all_eq_true]
  intro b hb
  rcases hgap b hb with rfl | rfl <;> decide

theorem toNat_lowerByte (b : UInt8) : (lowerByte b).toNat =
    if 0x41 ≤ b.toNat ∧ b.toNat ≤ 0x5a then b.toNat + 0x20 else b.toNat := by
  have hbounds : 0x41 ≤ b ∧ b ≤ 0x5a ↔ 0x41 ≤ b.toNat ∧ b.toNat ≤ 0x5a := Iff.rfl
  rw [lowerByte]
  by_cases h : 0x41 ≤ b ∧ b ≤ 0x5a
  · rw [if_pos h, if_pos (hbounds.mp h), UInt8.toNat_add]
    have hhigh := (hbounds.mp h).2
    have hsum : b.toNat + 0x20 < 2 ^ 8 := by omega
    exact Nat.mod_eq_of_lt hsum
  · rw [if_neg h, if_neg fun hother => h (hbounds.mpr hother)]

theorem isVisibleByte_lowerByte (b : UInt8) :
    Request.isVisibleByte (lowerByte b) = Request.isVisibleByte b := by
  rw [Bool.eq_iff_iff, isVisibleByte_eq_true_iff, isVisibleByte_eq_true_iff]
  simp only [UInt8.le_iff_toNat_le, ← UInt8.toNat_inj, toNat_lowerByte, UInt8.reduceToNat]
  split <;> omega

/-- Every byte is the number of a character. -/
theorem toNat_ofNat_byte (b : UInt8) : (Char.ofNat b.toNat).toNat = b.toNat := by
  have hb := b.toNat_lt
  have hvalid : b.toNat.isValidChar := .inl (by omega)
  rw [Char.toNat_ofNat, if_pos hvalid]

theorem charsOf_map_lowerByte (value : Bytes) :
    charsOf (value.map lowerByte) = (charsOf value).map Char.toLower := by
  rw [charsOf, charsOf, List.map_map, List.map_map]
  refine List.map_congr_left fun b _ => ?_
  have hlower := toNat_lowerByte b
  rw [Function.comp_apply, Function.comp_apply, ← Char.toNat_inj, toNat_toLower,
    toNat_ofNat_byte, toNat_ofNat_byte, hlower]

theorem typeIn?_of_respelt {value other : Bytes} (h : TypeRespelt value other) :
    typeIn? other = typeIn? value := by
  -- it is enough that both can be read or neither, with one media type in them
  suffices hsame : other.all Request.isVisibleByte = value.all Request.isVisibleByte ∧
      mediaType (String.ofList (charsOf other)) = mediaType (String.ofList (charsOf value)) by
    rw [typeIn?, typeIn?, hsame.1, hsame.2]
  simp only [mediaType_eq, String.toList_ofList]
  cases h with
  | letterCase h =>
      have hall : ∀ text : Bytes, (text.map lowerByte).all Request.isVisibleByte =
          text.all Request.isVisibleByte := by
        intro text
        rw [List.all_map]
        exact congrArg text.all (funext isVisibleByte_lowerByte)
      refine ⟨by rw [← hall other, ← h, hall], ?_⟩
      rw [map_toLower_mediaPart, map_toLower_mediaPart, ← charsOf_map_lowerByte, ← h,
        charsOf_map_lowerByte]
  | @parameters media rest other hrest hother hvisible hvisible' =>
      refine ⟨?_, ?_⟩
      · rw [List.all_append, List.all_append, List.all_eq_true.mpr hvisible,
          List.all_eq_true.mpr hvisible']
      · rw [charsOf_append, charsOf_append, mediaPart_append_fromMark hrest.charsOf,
          mediaPart_append_fromMark hother.charsOf]
  | @gapBefore gap value hgap =>
      refine ⟨by rw [List.all_append, all_visible_of_gap hgap, Bool.true_and], ?_⟩
      rw [charsOf_append, mediaPart_gap_append (isGap_charsOf hgap)]
  | @gapAfter media gap rest hgap hrest =>
      refine ⟨?_, ?_⟩
      · rw [List.all_append, List.all_append, List.all_append, all_visible_of_gap hgap,
          Bool.and_true]
      · rw [charsOf_append, charsOf_append, charsOf_append,
          mediaPart_append_fromMark hrest.charsOf, mediaPart_append_fromMark hrest.charsOf,
          mediaPart_append_gap (isGap_charsOf hgap)]

theorem unsigned?_of_unsigned {bound : Nat} {text : List Char}
    (h : ∀ rest, text ≠ '+' :: rest) :
    Number.unsigned? bound text = (Number.natural? 10 text).filter (· < bound) := by
  rw [Number.unsigned?.eq_def]
  split
  · exact absurd rfl (h _)
  · rfl

theorem natural?_zero {text : List Char} (hne : text ≠ []) :
    Number.natural? 10 ('0' :: text) = Number.natural? 10 text := by
  have hdigit : Number.digitValue? 10 '0' = some 0 :=
    Number.digitValue?_eq_some_iff.mpr ⟨by decide, rfl⟩
  rw [Number.natural?, Number.natural?, if_neg (by simp), if_neg (by rwa [List.isEmpty_iff]),
    Number.digitsFrom, hdigit]

theorem charsOf_ne_plus {digits : Bytes} (hdigits : ∀ b ∈ digits, 0x30 ≤ b ∧ b ≤ 0x39) :
    ∀ rest, charsOf digits ≠ '+' :: rest := by
  intro rest heq
  obtain ⟨b, tail, rfl, hb, _⟩ := List.map_eq_cons_iff.mp heq
  have hlow : 0x30 ≤ b.toNat := (hdigits b List.mem_cons_self).1
  have hlt := b.toNat_lt
  have hplus : b.toNat = 0x2b := by
    rw [← toNat_ofNat_byte, hb]
    rfl
  omega

theorem lengthIn?_cons {b : UInt8} {digits : Bytes} (hb : Request.isVisibleByte b = true)
    (hread : Number.unsigned? UInt64.size (charsOf (b :: digits)) =
      Number.unsigned? UInt64.size (charsOf digits)) :
    lengthIn? (b :: digits) = lengthIn? digits := by
  rw [lengthIn?, lengthIn?, List.all_cons, hb, Bool.true_and, hread]

theorem lengthIn?_of_respelt {value other : Bytes} (h : LengthRespelt value other) :
    lengthIn? other = lengthIn? value := by
  cases h with
  | plus hdigits =>
      refine lengthIn?_cons (by decide) ?_
      exact (unsigned?_of_unsigned (charsOf_ne_plus hdigits)).symm
  | zero hne hdigits =>
      have hchars : charsOf (0x30 :: value) = '0' :: charsOf value := rfl
      have hsign : ∀ rest, '0' :: charsOf value ≠ '+' :: rest := fun rest heq => by cases heq
      have hchars_ne : charsOf value ≠ [] := mt List.map_eq_nil_iff.mp hne
      refine lengthIn?_cons (by decide) ?_
      rw [hchars, unsigned?_of_unsigned hsign, natural?_zero hchars_ne,
        unsigned?_of_unsigned (charsOf_ne_plus hdigits)]

/-! ## Any number of changes -/

section Lists

variable {before after : List (String × Bytes)} {name own : String} {value other : Bytes}

theorem lookup_of_first (hfirst : valuesOf name before = []) :
    (before ++ (name, value) :: after).lookup name = some value := by
  rw [List.lookup_append, ← head?_valuesOf, hfirst, List.head?_nil, Option.none_or,
    List.lookup_cons_self]

theorem lookup_of_ne (hne : own ≠ name) :
    (before ++ (name, value) :: after).lookup own = (before ++ after).lookup own := by
  rw [List.lookup_append, List.lookup_append, List.lookup_cons, beq_false_of_ne hne]

theorem lookup_of_again (hfirst : valuesOf name before ≠ []) :
    (before ++ (name, value) :: after).lookup own = (before ++ after).lookup own := by
  by_cases hname : own = name
  · obtain ⟨held, more, hheld⟩ := List.exists_cons_of_ne_nil hfirst
    rw [hname, List.lookup_append, List.lookup_append, ← head?_valuesOf, hheld,
      List.head?_cons, Option.some_or, Option.some_or]
  · exact lookup_of_ne hname

end Lists

theorem format?_of_respelt {headers other : List (String × Bytes)} (h : Respelt headers other)
    (r : Request) :
    format? { r with headers := other } = format? { r with headers := headers } := by
  cases h with
  | contentType hfirst h =>
      refine format?_congr ?_ ?_ <;> rw [Request.header?, Request.header?]
      · rw [lookup_of_ne (by decide), lookup_of_ne (by decide)]
      · rw [lookup_of_first hfirst, lookup_of_first hfirst]
        exact typeIn?_of_respelt h
  | contentLength hfirst h =>
      refine format?_congr ?_ ?_ <;> rw [Request.header?, Request.header?]
      · rw [lookup_of_first hfirst, lookup_of_first hfirst]
        exact lengthIn?_of_respelt h
      · rw [lookup_of_ne (by decide), lookup_of_ne (by decide)]
  | again value hfirst =>
      refine format?_congr ?_ ?_ <;>
        rw [Request.header?, Request.header?, lookup_of_again hfirst]

/-- Changes may be made in any number and taken back. -/
theorem format?_of_eqvGen {headers other : List (String × Bytes)}
    (h : Relation.EqvGen Respelt headers other) (r : Request) :
    format? { r with headers := other } = format? { r with headers := headers } := by
  induction h with
  | rel _ _ h => exact format?_of_respelt h r
  | refl _ => rfl
  | symm _ _ _ ih => exact ih.symm
  | trans _ _ _ _ _ ih ih' => exact ih'.trans ih

/-- The body of a request is read in an encoding exactly if the first length is a
number from 1 to 65536, with zeros before it or not and with a plus sign before
these or not, and the first content type says up to its first semicolon, without
the spaces and tabs around it and in letters of either case, a media type of that
encoding. Any changes that leave the number and the media type as they are leave
the choice as it is, and so does a header that comes again. -/
theorem format?_told_by_headers (r : Request) :
    (∀ format, format? r = some format ↔
      (∃ text n, HeaderText r "content-length" text ∧ Number.SpellsNatural text.toList n ∧
        n < UInt64.size ∧ 1 ≤ n ∧ n ≤ 65536) ∧
      ∃ text core, HeaderText r "content-type" text ∧ MediaPart text.toList core ∧
        Means core format) ∧
    ∀ headers, Relation.EqvGen Respelt r.headers headers →
      format? { r with headers := headers } = format? r := by
  refine ⟨fun format => ?_, fun headers h => format?_of_eqvGen h r⟩
  rw [format?_eq_some_iff, Announced]
  refine and_congr ⟨?_, ?_⟩ ?_
  · rintro ⟨text, n, hheader, hspells, hlow, hhigh⟩
    have hsize : n < UInt64.size := Nat.lt_of_le_of_lt hhigh (by decide)
    exact ⟨text, n, hheader, hspells, hsize, hlow, hhigh⟩
  · rintro ⟨text, n, hheader, hspells, _, hlow, hhigh⟩
    exact ⟨text, n, hheader, hspells, hlow, hhigh⟩
  · simp only [formatOf?_mediaType_eq_some_iff, exists_and_left]

/-- A short document, announced in as few words as possible. -/
def terse : Request where
  method := "POST"
  uri := ⟨"/a", none⟩
  headers := [("content-length", Text.utf8 "7"), ("content-type", Text.utf8 "application/json")]
  body := Text.utf8 "\x7b\"a\":1\x7d"

/-- The same in more words. -/
def ornate : List (String × Bytes) :=
  [("content-length", 0x2b :: 0x30 :: Text.utf8 "7"),
    ("content-type", [0x20, 0x09] ++ (Text.utf8 "Application/JSON" ++
      Text.utf8 ";charset=utf-8")),
    ("content-type", Text.utf8 "text/plain")]

theorem eqvGen_ornate : Relation.EqvGen Respelt terse.headers ornate := by
  have hseven : ∀ b ∈ Text.utf8 "7", 0x30 ≤ b ∧ b ≤ 0x39 :=
    List.forall_mem_singleton.mpr (by decide : (0x30 : UInt8) ≤ 0x37 ∧ (0x37 : UInt8) ≤ 0x39)
  have hdigits : ∀ b ∈ 0x30 :: Text.utf8 "7", 0x30 ≤ b ∧ b ≤ 0x39 :=
    List.forall_mem_cons.mpr ⟨by decide, hseven⟩
  have hzero := @Respelt.contentLength []
    [("content-type", Text.utf8 "application/json")] _ _ rfl
    (.zero (by decide) hseven)
  have hplus := @Respelt.contentLength []
    [("content-type", Text.utf8 "application/json")] _ _ rfl (.plus hdigits)
  have hcase := @Respelt.contentType [("content-length", 0x2b :: 0x30 :: Text.utf8 "7")] []
    (Text.utf8 "application/json") (Text.utf8 "Application/JSON" ++ []) (by decide)
    (.letterCase (by decide))
  have hparameters := @Respelt.contentType
    [("content-length", 0x2b :: 0x30 :: Text.utf8 "7")] []
    (Text.utf8 "Application/JSON" ++ []) (Text.utf8 "Application/JSON" ++
      Text.utf8 ";charset=utf-8") (by decide)
    (.parameters (.inl rfl) (.inr ⟨_, rfl⟩) (List.forall_mem_nil _)
      (List.all_eq_true.mp (by decide)))
  have hgap := @Respelt.contentType [("content-length", 0x2b :: 0x30 :: Text.utf8 "7")] []
    (Text.utf8 "Application/JSON" ++ Text.utf8 ";charset=utf-8") ([0x20, 0x09] ++ _)
    (by decide) (.gapBefore (by simp))
  have hagain := @Respelt.again (ornate.take 2) [] "content-type" (Text.utf8 "text/plain")
    (by decide)
  refine .trans _ _ _ (.rel _ _ hzero) ?_
  refine .trans _ _ _ (.rel _ _ hplus) ?_
  refine .trans _ _ _ (.rel _ _ hcase) ?_
  refine .trans _ _ _ (.rel _ _ hparameters) ?_
  refine .trans _ _ _ (.rel _ _ hgap) ?_
  exact .rel _ _ hagain

/-- Both announce a JSON document. -/
theorem format?_told_by_headers_ornate :
    format? terse = some .json ∧ Relation.EqvGen Respelt terse.headers ornate ∧
      format? { terse with headers := ornate } = some .json := by
  have hterse : format? terse = some .json := by
    refine ((format?_told_by_headers terse).1 .json).mpr ⟨⟨"7", 7, ?_, ?_, by decide⟩,
      "application/json", "application/json".toList, ?_, ?_, .json rfl⟩
    · exact headerText?_eq_some_iff.mp rfl
    · exact @Number.SpellsNatural.bare [7] (by decide) (by decide)
    · exact headerText?_eq_some_iff.mp rfl
    · exact mediaPart_iff.mpr (by decide)
  refine ⟨hterse, eqvGen_ornate, ?_⟩
  rw [(format?_told_by_headers terse).2 ornate eqvGen_ornate, hterse]

end FaultGate.Inspection
