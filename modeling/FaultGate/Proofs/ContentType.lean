import FaultGate.Inspection
import Mathlib.Data.List.DropRight
import Mathlib.Data.List.TakeWhile

/-!
# What a content type says

A content type is a media type, and from a semicolon on come parameters that nobody
here looks at. This file splits it up in the way it is written: spaces and tabs, the
media type, spaces and tabs again, and the rest. There is one way to do so, and it
is what the reader finds by cutting the text off and trimming it at both ends.

Trimming, cutting and writing in lower case are proved to go past each other. The
reader writes in lower case at the end, and whoever compares two content types
wants to have done so at the start.
-/

namespace FaultGate.Inspection

/-! ## Media types as they are written -/

def isGap (c : Char) : Bool :=
  c = ' ' || c = '\t'

/-- There is nothing, or something that the mark begins. -/
def FromMark {α : Type} (mark : α) (rest : List α) : Prop :=
  rest = [] ∨ ∃ tail, rest = mark :: tail

/-- What a content type says before its first semicolon, without the spaces and
tabs around it. -/
structure MediaPart (text core : List Char) : Prop where
  split : ∃ lead trail rest, text = lead ++ core ++ trail ++ rest ∧
    (∀ c ∈ lead, isGap c = true) ∧ (∀ c ∈ trail, isGap c = true) ∧ FromMark ';' rest
  whole : ';' ∉ core
  first : ∀ c ∈ core.head?, isGap c = false
  last : ∀ c ∈ core.getLast?, isGap c = false

/-- The two texts differ in nothing but the case of letters. -/
def SameLetters (text : List Char) (name : String) : Prop :=
  text.map Char.toLower = name.toList.map Char.toLower

/-- The encoding that a media type stands for, in letters of either case. -/
inductive Means (core : List Char) : Format → Prop
  | form (h : SameLetters core "application/x-www-form-urlencoded") : Means core .form
  | json (h : SameLetters core "application/json") : Means core .json
  | suffix {front back : List Char} (hcore : core = front ++ back)
    (h : SameLetters back "+json") : Means core .json

/-! ## Media types as they are read -/

def mediaPart (text : List Char) : List Char :=
  trimmed (text.takeWhile (· ≠ ';'))

section Trimming

variable {text gap : List Char}

theorem trimmed_eq (text : List Char) :
    trimmed text = (text.dropWhile isGap).rdropWhile isGap :=
  rfl

theorem trimmed_gap_append (hgap : ∀ c ∈ gap, isGap c = true) (text : List Char) :
    trimmed (gap ++ text) = trimmed text := by
  rw [trimmed_eq, trimmed_eq, List.dropWhile_append_of_pos hgap]

theorem trimmed_append_gap (hgap : ∀ c ∈ gap, isGap c = true) (text : List Char) :
    trimmed (text ++ gap) = trimmed text := by
  have hdrop : gap.dropWhile isGap = [] := List.dropWhile_eq_nil_iff.mpr hgap
  rw [trimmed_eq, trimmed_eq, List.dropWhile_append]
  split
  · rename_i hempty
    rw [List.isEmpty_iff.mp hempty, hdrop]
  · rw [List.rdropWhile, List.reverse_append, List.dropWhile_append_of_pos, List.rdropWhile]
    intro c hc
    exact hgap c (List.mem_reverse.mp hc)

theorem trimmed_of_ends (hfirst : ∀ c ∈ text.head?, isGap c = false)
    (hlast : ∀ c ∈ text.getLast?, isGap c = false) : trimmed text = text := by
  have hdrop : text.dropWhile isGap = text := by
    cases text with
    | nil => rfl
    | cons c text => exact List.dropWhile_cons_of_neg (by rw [hfirst c rfl]; decide)
  rw [trimmed_eq, hdrop, List.rdropWhile_eq_self_iff]
  intro hne
  rw [hlast _ (List.getLast?_eq_some_getLast hne)]
  decide

theorem first_trimmed (text : List Char) : ∀ c ∈ (trimmed text).head?, isGap c = false := by
  intro c hc
  obtain ⟨rest, hrest⟩ := List.rdropWhile_prefix isGap (text.dropWhile isGap)
  rw [trimmed_eq] at hc
  have hhead : (text.dropWhile isGap).head? = some c := by
    rw [← hrest, List.head?_append, hc, Option.some_or]
  have hnot := List.head?_dropWhile_not isGap text
  rw [hhead] at hnot
  exact hnot

theorem last_trimmed (text : List Char) : ∀ c ∈ (trimmed text).getLast?, isGap c = false := by
  intro c hc
  rw [trimmed_eq, List.rdropWhile, List.getLast?_reverse] at hc
  have hnot := List.head?_dropWhile_not isGap (text.dropWhile isGap).reverse
  rw [hc] at hnot
  exact hnot

theorem exists_split_trimmed (text : List Char) :
    ∃ lead trail, text = lead ++ trimmed text ++ trail ∧
      (∀ c ∈ lead, isGap c = true) ∧ ∀ c ∈ trail, isGap c = true := by
  refine ⟨text.takeWhile isGap, (text.dropWhile isGap).rtakeWhile isGap, ?_,
    fun c => List.mem_takeWhile_imp, fun c hc => ?_⟩
  · rw [trimmed_eq, List.append_assoc, List.rdropWhile_append_rtakeWhile,
      List.takeWhile_append_dropWhile]
  · exact List.mem_rtakeWhile_imp hc

end Trimming

theorem takeWhile_append_fromMark {media rest : List Char} (hrest : FromMark ';' rest) :
    (media ++ rest).takeWhile (· ≠ ';') = media.takeWhile (· ≠ ';') := by
  have htake : rest.takeWhile (· ≠ ';') = [] := by
    rcases hrest with rfl | ⟨tail, rfl⟩
    · rfl
    · exact List.takeWhile_cons_of_neg (by decide)
  rw [List.takeWhile_append]
  split
  · rename_i hlength
    rw [htake, List.append_nil]
    exact ((List.takeWhile_prefix _).eq_of_length hlength).symm
  · rfl

theorem mediaPart_append_fromMark {media rest : List Char} (hrest : FromMark ';' rest) :
    mediaPart (media ++ rest) = mediaPart media := by
  rw [mediaPart, mediaPart, takeWhile_append_fromMark hrest]

theorem takeWhile_of_not_mem {text : List Char} (h : ';' ∉ text) :
    text.takeWhile (· ≠ ';') = text := by
  rw [List.takeWhile_eq_self_iff]
  intro c hc
  exact decide_eq_true fun heq => h (heq ▸ hc)

theorem not_mem_of_gap {gap : List Char} (hgap : ∀ c ∈ gap, isGap c = true) : ';' ∉ gap :=
  fun h => absurd (hgap ';' h) (by decide)

theorem mediaPart_gap_append {gap : List Char} (hgap : ∀ c ∈ gap, isGap c = true)
    (text : List Char) : mediaPart (gap ++ text) = mediaPart text := by
  rw [mediaPart, List.takeWhile_append_of_pos, trimmed_gap_append hgap, mediaPart]
  intro c hc
  exact decide_eq_true fun heq => not_mem_of_gap hgap (heq ▸ hc)

/-- Where a semicolon stands before the gap, the gap is out of the media type
anyway. -/
theorem mediaPart_append_gap {gap : List Char} (hgap : ∀ c ∈ gap, isGap c = true)
    (text : List Char) : mediaPart (text ++ gap) = mediaPart text := by
  rw [mediaPart, List.takeWhile_append]
  split
  · rename_i hlength
    rw [mediaPart, takeWhile_of_not_mem (not_mem_of_gap hgap), trimmed_append_gap hgap,
      (List.takeWhile_prefix _).eq_of_length hlength]
  · rw [mediaPart]

theorem mediaPart_iff {text core : List Char} : MediaPart text core ↔ mediaPart text = core := by
  constructor
  · rintro ⟨⟨lead, trail, rest, rfl, hlead, htrail, hrest⟩, hwhole, hfirst, hlast⟩
    have hmark : ';' ∉ lead ++ core ++ trail := by
      simp only [List.mem_append, not_or]
      exact ⟨⟨not_mem_of_gap hlead, hwhole⟩, not_mem_of_gap htrail⟩
    rw [mediaPart_append_fromMark hrest, mediaPart, takeWhile_of_not_mem hmark,
      trimmed_append_gap htrail, trimmed_gap_append hlead, trimmed_of_ends hfirst hlast]
  · rintro rfl
    obtain ⟨lead, trail, hsplit, hlead, htrail⟩ :=
      exists_split_trimmed (text.takeWhile (· ≠ ';'))
    refine ⟨⟨lead, trail, text.dropWhile (· ≠ ';'), ?_, hlead, htrail, ?_⟩, fun hmark => ?_,
      first_trimmed _, last_trimmed _⟩
    · rw [mediaPart, ← hsplit, List.takeWhile_append_dropWhile]
    · cases hdrop : text.dropWhile (· ≠ ';') with
      | nil => exact .inl rfl
      | cons c tail =>
          have hnot := List.head?_dropWhile_not (· ≠ ';') text
          rw [hdrop] at hnot
          exact .inr ⟨tail, by rw [of_not_not (of_decide_eq_false hnot)]⟩
    · have hmem : ';' ∈ text.takeWhile (· ≠ ';') := by
        rw [hsplit]
        exact List.mem_append_left _ (List.mem_append_right _ hmark)
      exact absurd (List.mem_takeWhile_imp hmem) (by decide)

theorem toNat_toLower (c : Char) : c.toLower.toNat =
    if 0x41 ≤ c.toNat ∧ c.toNat ≤ 0x5a then c.toNat + 0x20 else c.toNat := by
  have hbounds : (c.val ≥ 'A'.val ∧ c.val ≤ 'Z'.val) ↔ 0x41 ≤ c.toNat ∧ c.toNat ≤ 0x5a :=
    Iff.rfl
  delta Char.toLower
  split
  · rename_i h
    rw [if_pos (hbounds.mp h)]
    have hsum : (c.val + ('a'.val - 'A'.val)).toNat = (c.toNat + 0x20) % 2 ^ 32 := rfl
    have hhigh := (hbounds.mp h).2
    exact hsum.trans (Nat.mod_eq_of_lt (by omega))
  · rename_i h
    rw [if_neg fun hother => h (hbounds.mpr hother)]

/-- A character that is no letter is not what a letter becomes. -/
theorem toLower_eq_iff {c d : Char} (hd : ¬ (0x41 ≤ d.toNat ∧ d.toNat ≤ 0x5a))
    (hd' : ¬ (0x61 ≤ d.toNat ∧ d.toNat ≤ 0x7a)) : c.toLower = d ↔ c = d := by
  rw [← Char.toNat_inj, ← Char.toNat_inj, toNat_toLower]
  split <;> omega

theorem isGap_toLower (c : Char) : isGap c.toLower = isGap c := by
  rw [isGap, isGap, decide_eq_decide.mpr (toLower_eq_iff (by decide) (by decide)),
    decide_eq_decide.mpr (toLower_eq_iff (by decide) (by decide))]

theorem map_toLower_trimmed (text : List Char) :
    (trimmed text).map Char.toLower = trimmed (text.map Char.toLower) := by
  have hgap : isGap ∘ Char.toLower = isGap := funext isGap_toLower
  rw [trimmed_eq, trimmed_eq, List.rdropWhile, List.rdropWhile, List.dropWhile_map, hgap,
    ← List.map_reverse, List.dropWhile_map, hgap, List.map_reverse]

theorem map_toLower_mediaPart (text : List Char) :
    (mediaPart text).map Char.toLower = mediaPart (text.map Char.toLower) := by
  have hmark : (fun c : Char => decide (c ≠ ';')) ∘ Char.toLower =
      fun c => decide (c ≠ ';') := by
    funext c
    exact decide_eq_decide.mpr (not_congr (toLower_eq_iff (by decide) (by decide)))
  rw [mediaPart, mediaPart, map_toLower_trimmed, List.takeWhile_map, hmark]

theorem mediaType_eq (text : String) :
    mediaType text = String.ofList ((mediaPart text.toList).map Char.toLower) :=
  rfl

theorem sameLetters_iff (core : List Char) {name : String}
    (hname : name.toList.map Char.toLower = name.toList) :
    SameLetters core name ↔ String.ofList (core.map Char.toLower) = name := by
  rw [SameLetters, hname, ← String.toList_inj, String.toList_ofList]

theorem isSuffixOf_lower_iff {core : List Char} :
    "+json".toList.isSuffixOf (String.ofList (core.map Char.toLower)).toList = true ↔
      ∃ front back, core = front ++ back ∧ SameLetters back "+json" := by
  rw [List.isSuffixOf_iff_suffix, String.toList_ofList (l := core.map Char.toLower)]
  constructor
  · rintro ⟨front, hfront⟩
    obtain ⟨first, last, hcore, _, hlast⟩ := List.map_eq_append_iff.mp hfront.symm
    exact ⟨first, last, hcore, hlast⟩
  · rintro ⟨front, back, rfl, hback⟩
    rw [List.map_append, hback]
    exact List.suffix_append _ _

theorem formatOf?_eq_some_iff {core : List Char} {format : Format} :
    formatOf? (String.ofList (core.map Char.toLower)) = some format ↔ Means core format := by
  have hform : SameLetters core "application/x-www-form-urlencoded" ↔ _ :=
    sameLetters_iff core (by decide)
  have hjson : SameLetters core "application/json" ↔ _ := sameLetters_iff core (by decide)
  rw [formatOf?]
  constructor
  · intro h
    split at h
    · rename_i heq
      cases h
      exact .form (hform.mpr heq)
    · split at h
      · rename_i heq
        cases h
        rw [Bool.or_eq_true, decide_eq_true_eq, ← hjson, isSuffixOf_lower_iff] at heq
        rcases heq with heq | ⟨front, back, hcore, hback⟩
        · exact .json heq
        · exact .suffix hcore hback
      · cases h
  · intro h
    cases h with
    | form h => rw [if_pos (hform.mp h)]
    | json h =>
        rw [hjson.mp h]
        decide
    | suffix hcore h =>
        have hend := isSuffixOf_lower_iff.mpr ⟨_, _, hcore, h⟩
        rw [if_neg, if_pos (by rw [hend, Bool.or_true])]
        -- a form's media type has another end
        intro heq
        rw [heq] at hend
        exact absurd hend (by decide)

theorem formatOf?_mediaType_eq_some_iff {text : String} {format : Format} :
    formatOf? (mediaType text) = some format ↔
      ∃ core, MediaPart text.toList core ∧ Means core format := by
  simp only [mediaType_eq, formatOf?_eq_some_iff, mediaPart_iff, exists_eq_left']

end FaultGate.Inspection
