import FaultGate.Proofs.Json.Document
import FaultGate.Proofs.Json.Skipping

/-!
# The reader reads what the grammar derives

The rules of the grammar were read off the reader: what it has read is derived.
This file is the other half, that it never refuses what is derived, and with
the spelling of documents it follows that every document in UTF-8 is read for
the value that it is a document of.

Two things stand between a derivation and the reader. The reader goes no deeper
than so many brackets, and the rules do not count them, so the depth is asked
of the value. And the reader runs on fuel. Each production spends one unit, and
a value is either the end of it or opens a bracket, so that two units for each
piece of the text are always enough; an item or a member needs one more, for
itself, before its value begins.

That a text is a document of one value only is a corollary. For any two values
there is a depth at which the reader would return both.
-/

namespace FaultGate.Json

open FaultGate.Text (Pieces)

/-! ## One production of the reader -/

section Step

variable {fuel depth : Nat} {input after rest : Pieces}

theorem value?_string {s : String} (h : string? input = some (s, rest)) :
    value? (fuel + 1) depth (some '"' :: input) = some (.string s, rest) := by
  rw [value?.eq_def]
  simp only [h, Option.map_some]

theorem value?_emptyArray (h : skipBlank input = some ']' :: rest) :
    value? (fuel + 1) (depth + 1) (some '[' :: input) = some (.array [], rest) := by
  rw [value?.eq_def]
  simp only [h]

theorem value?_array (hne : ∀ tail, skipBlank input ≠ some ']' :: tail) :
    value? (fuel + 1) (depth + 1) (some '[' :: input) =
      items? fuel depth [] (skipBlank input) := by
  rw [value?.eq_def]
  simp only []

theorem value?_emptyObject (h : skipBlank input = some '}' :: rest) :
    value? (fuel + 1) (depth + 1) (some '{' :: input) = some (.object [], rest) := by
  rw [value?.eq_def]
  simp only [h]

theorem value?_object (hne : ∀ tail, skipBlank input ≠ some '}' :: tail) :
    value? (fuel + 1) (depth + 1) (some '{' :: input) =
      members? fuel depth [] (skipBlank input) := by
  rw [value?.eq_def]
  simp only []

/-- No other form of value begins as a number does. -/
theorem value?_number {numeral : Numeral} {n : Number}
    (h : numeral? input = some (numeral, rest)) (hn : numeral.value? = some n) :
    value? (fuel + 1) depth input = some (.number n, rest) := by
  rw [value?.eq_def]
  simp only []
  split
  · exact absurd rfl (numeral?_not_head h rfl (by decide) _)
  · exact absurd rfl (numeral?_not_head h rfl (by decide) _)
  · exact absurd rfl (numeral?_not_head h rfl (by decide) _)
  · exact absurd rfl (numeral?_not_head h rfl (by decide) _)
  · exact absurd rfl (numeral?_not_head h rfl (by decide) _)
  · exact absurd rfl (numeral?_not_head h rfl (by decide) _)
  · rw [h]
    simp only [Option.bind_eq_bind, Option.bind_some, hn]
    rfl

variable {v : Value} {key : String}

theorem items?_last {done : List Value} (h : value? fuel depth input = some (v, after))
    (hend : skipBlank after = some ']' :: rest) :
    items? (fuel + 1) depth done input = some (.array (done.reverse ++ [v]), rest) := by
  rw [items?, h]
  simp only [hend, List.reverse_cons]

theorem items?_next {done : List Value} (h : value? fuel depth input = some (v, after))
    (hsep : skipBlank after = some ',' :: rest) :
    items? (fuel + 1) depth done input =
      items? fuel depth (v :: done) (skipBlank rest) := by
  rw [items?, h]
  simp only [hsep]

theorem members?_last {done : List (String × Value)} {inner : Pieces}
    (hk : key? input = some (key, inner))
    (h : value? fuel depth (skipBlank inner) = some (v, after))
    (hend : skipBlank after = some '}' :: rest) :
    members? (fuel + 1) depth done input =
      some (.object (done.reverse ++ [(key, v)]), rest) := by
  rw [members?, hk]
  simp only [h, hend, List.reverse_cons]

theorem members?_next {done : List (String × Value)} {inner : Pieces}
    (hk : key? input = some (key, inner))
    (h : value? fuel depth (skipBlank inner) = some (v, after))
    (hsep : skipBlank after = some ',' :: rest) :
    members? (fuel + 1) depth done input =
      members? fuel depth ((key, v) :: done) (skipBlank rest) := by
  rw [members?, hk]
  simp only [h, hsep]

end Step

/-! ## Whole values -/

/-- What the reader makes of a text that begins with a phrase, with fuel enough
and nested no deeper than it goes. Items and members are read onto those that
were read before. -/
def Reads : Phrase → Pieces → Pieces → Prop
  | .value v, input, rest =>
    ∀ fuel depth, 2 * input.length ≤ fuel → v.within depth = true →
      value? fuel depth input = some (v, rest)
  | .items vs, input, rest =>
    ∀ fuel depth done, 2 * input.length < fuel → vs.all (Value.within depth) = true →
      items? fuel depth done input = some (.array (done.reverse ++ vs), rest)
  | .members ms, input, rest =>
    ∀ fuel depth done, 2 * input.length < fuel →
      ms.all (fun m => Value.within depth m.2) = true →
      members? fuel depth done input = some (.object (done.reverse ++ ms), rest)

/-- Where a phrase begins there is fuel for a production. -/
theorem exists_fuel {fuel : Nat} {p : Option Char} {input : Pieces}
    (h : 2 * (p :: input).length ≤ fuel) :
    ∃ less, fuel = less + 1 ∧ 2 * input.length < less := by
  rw [List.length_cons] at h
  exact ⟨fuel - 1, by omega, by omega⟩

/-- The induction over the derivation, one case for each rule. -/
theorem reads_of_derives {phrase : Phrase} {input rest : Pieces}
    (h : Derives phrase input rest) : Reads phrase input rest := by
  induction h with
  | string h =>
      intro fuel depth hfuel _
      obtain ⟨fuel, rfl, _⟩ := exists_fuel hfuel
      exact value?_string h
  | null h =>
      intro fuel depth hfuel _
      obtain ⟨fuel, rfl, _⟩ := exists_fuel hfuel
      rw [value?.eq_def]
      simp only [h, Option.map_some]
  | true h =>
      intro fuel depth hfuel _
      obtain ⟨fuel, rfl, _⟩ := exists_fuel hfuel
      rw [value?.eq_def]
      simp only [h, Option.map_some]
  | false h =>
      intro fuel depth hfuel _
      obtain ⟨fuel, rfl, _⟩ := exists_fuel hfuel
      rw [value?.eq_def]
      simp only [h, Option.map_some]
  | number h hn =>
      intro fuel depth hfuel _
      obtain ⟨c, tail, rfl, _, _⟩ := numeral?_head h
      obtain ⟨fuel, rfl, _⟩ := exists_fuel hfuel
      exact value?_number h hn
  | emptyArray hclose =>
      intro fuel depth hfuel hdepth
      obtain ⟨fuel, rfl, _⟩ := exists_fuel hfuel
      cases depth with
      | zero => cases hdepth
      | succ depth => exact value?_emptyArray hclose
  | @array vs input rest hne _ ih =>
      intro fuel depth hfuel hdepth
      obtain ⟨fuel, rfl, hfuel⟩ := exists_fuel hfuel
      cases depth with
      | zero => cases hdepth
      | succ depth =>
          have := length_skipBlank_le input
          rw [value?_array hne, ih fuel depth [] (by omega) hdepth]
          rfl
  | emptyObject hclose =>
      intro fuel depth hfuel hdepth
      obtain ⟨fuel, rfl, _⟩ := exists_fuel hfuel
      cases depth with
      | zero => cases hdepth
      | succ depth => exact value?_emptyObject hclose
  | @object ms input rest hne _ ih =>
      intro fuel depth hfuel hdepth
      obtain ⟨fuel, rfl, hfuel⟩ := exists_fuel hfuel
      cases depth with
      | zero => cases hdepth
      | succ depth =>
          have := length_skipBlank_le input
          rw [value?_object hne, ih fuel depth [] (by omega) hdepth]
          rfl
  | lastItem _ hend ih =>
      intro fuel depth done hfuel hdepth
      obtain ⟨fuel, rfl⟩ : ∃ less, fuel = less + 1 := ⟨fuel - 1, by omega⟩
      rw [List.all_cons, List.all_nil, Bool.and_true] at hdepth
      exact items?_last (ih fuel depth (by omega) hdepth) hend
  | @nextItem v vs input after next rest hv hsep _ ih ihs =>
      intro fuel depth done hfuel hdepth
      obtain ⟨fuel, rfl⟩ : ∃ less, fuel = less + 1 := ⟨fuel - 1, by omega⟩
      rw [List.all_cons, Bool.and_eq_true] at hdepth
      have hafter := length_le_of_derives hv
      have hnext := length_lt_of_skipBlank hsep
      have hblank := length_skipBlank_le next
      -- the item and its comma were taken off, so the fuel still covers what is left
      rw [items?_next (ih fuel depth (by omega) hdepth.1) hsep,
        ihs fuel depth (v :: done) (by omega) hdepth.2, Text.reverse_cons_append]
  | @lastMember key v input inner after rest hk _ hend ih =>
      intro fuel depth done hfuel hdepth
      obtain ⟨fuel, rfl⟩ : ∃ less, fuel = less + 1 := ⟨fuel - 1, by omega⟩
      rw [List.all_cons, List.all_nil, Bool.and_true] at hdepth
      have hinner := (skipKey?_of_key? hk).2
      have hblank := length_skipBlank_le inner
      exact members?_last hk (ih fuel depth (by omega) hdepth) hend
  | @nextMember key v ms input inner after next rest hk hv hsep _ ih ihs =>
      intro fuel depth done hfuel hdepth
      obtain ⟨fuel, rfl⟩ : ∃ less, fuel = less + 1 := ⟨fuel - 1, by omega⟩
      rw [List.all_cons, Bool.and_eq_true] at hdepth
      have hinner := (skipKey?_of_key? hk).2
      have hblank := length_skipBlank_le inner
      have hafter := length_le_of_derives hv
      have hnext := length_lt_of_skipBlank hsep
      have hblank' := length_skipBlank_le next
      rw [members?_next hk (ih fuel depth (by omega) hdepth.1) hsep,
        ihs fuel depth ((key, v) :: done) (by omega) hdepth.2, Text.reverse_cons_append]

/-! ## Documents -/

theorem derives_of_document {v : Value} {text : String} (h : Document v text) :
    ∃ rest, Derives (.value v) (skipBlank (text.toList.map some)) rest ∧
      (skipBlank rest).isEmpty = true := by
  obtain ⟨before, inner, after, hbefore, hinner, hafter, htext⟩ := h
  have hfollows : Follows (after.map some) := by
    rw [← List.append_nil (after.map some)]
    exact follows_blank_append hafter (fun _ _ heq => by cases heq)
  refine ⟨after.map some, ?_, ?_⟩
  · rw [htext, List.map_append, List.map_append, hinner.skipBlank_append hbefore]
    exact derives_of_written hinner hfollows
  · rw [skipBlank_of_blank hafter]
    rfl

/-- Every document is read for the value that it is a document of. -/
theorem ofBytes?_of_document {v : Value} {text : String} (h : Document v text)
    (hdepth : v.within maxDepth = true) : Value.ofBytes? (Text.utf8 text) = some v := by
  obtain ⟨rest, hderives, hend⟩ := derives_of_document h
  have hlength := length_skipBlank_le (text.toList.map some)
  rw [Value.ofBytes?, Text.pieces_utf8, Value.ofPieces?,
    reads_of_derives hderives _ _ (by omega) hdepth]
  simp only [hend, if_true]

/-! ## A text is a document of one value -/

theorem Value.within_succ {depth : Nat} : ∀ {v : Value}, v.within depth = true →
    v.within (depth + 1) = true := by
  induction depth with
  | zero =>
      intro v h
      cases v with
      | array | object => cases h
      | null | bool | number | string => rfl
  | succ depth ih =>
      intro v h
      cases v with
      | array items =>
          rw [Value.within, List.all_eq_true] at h ⊢
          exact fun v hv => ih (h v hv)
      | object members =>
          rw [Value.within, List.all_eq_true] at h ⊢
          exact fun m hm => ih (h m hm)
      | null | bool | number | string => rfl

theorem Phrase.within_succ {phrase : Phrase} {depth : Nat}
    (h : phrase.within depth = true) : phrase.within (depth + 1) = true := by
  cases phrase with
  | value v => exact Value.within_succ h
  | items vs =>
      rw [Phrase.within, List.all_eq_true] at h ⊢
      exact fun v hv => Value.within_succ (h v hv)
  | members ms =>
      rw [Phrase.within, List.all_eq_true] at h ⊢
      exact fun m hm => Value.within_succ (h m hm)

theorem Phrase.within_mono {phrase : Phrase} {depth depth' : Nat} (hle : depth ≤ depth')
    (h : phrase.within depth = true) : phrase.within depth' = true := by
  induction hle with
  | refl => exact h
  | step _ ih => exact Phrase.within_succ ih

theorem exists_within {phrase : Phrase} {text : List Char} (h : Written phrase text) :
    ∃ depth, phrase.within depth = true := by
  induction h with
  | string | null | true | false | number => exact ⟨0, rfl⟩
  | emptyArray | emptyObject => exact ⟨1, rfl⟩
  | array _ _ ih | object _ _ ih =>
      obtain ⟨depth, hdepth⟩ := ih
      exact ⟨depth + 1, hdepth⟩
  | lastItem _ _ ih =>
      obtain ⟨depth, hdepth⟩ := ih
      exact ⟨depth, Phrase.within_nextItem hdepth rfl⟩
  | lastMember _ _ _ _ ih =>
      obtain ⟨depth, hdepth⟩ := ih
      exact ⟨depth, Phrase.within_nextMember hdepth rfl⟩
  | nextItem _ _ _ _ ih ihs =>
      obtain ⟨depth, hdepth⟩ := ih
      obtain ⟨depth', hdepth'⟩ := ihs
      exact ⟨max depth depth', Phrase.within_nextItem
        (Phrase.within_mono (Nat.le_max_left _ _) hdepth)
        (Phrase.within_mono (Nat.le_max_right _ _) hdepth')⟩
  | nextMember _ _ _ _ _ _ ih ihs =>
      obtain ⟨depth, hdepth⟩ := ih
      obtain ⟨depth', hdepth'⟩ := ihs
      exact ⟨max depth depth', Phrase.within_nextMember
        (Phrase.within_mono (Nat.le_max_left _ _) hdepth)
        (Phrase.within_mono (Nat.le_max_right _ _) hdepth')⟩

theorem document_unique {v w : Value} {text : String} (hv : Document v text)
    (hw : Document w text) : v = w := by
  have hwithin : ∀ {u : Value}, Document u text → ∃ depth, u.within depth = true := by
    rintro u ⟨_, _, _, _, hu, _, _⟩
    exact exists_within hu
  obtain ⟨depth, hdepth⟩ := hwithin hv
  obtain ⟨depth', hdepth'⟩ := hwithin hw
  obtain ⟨rest, hderives, _⟩ := derives_of_document hv
  obtain ⟨rest', hderives', _⟩ := derives_of_document hw
  -- deep enough for both, the reader returns the two values from one text
  have hread := reads_of_derives hderives _ (max depth depth') (Nat.le_refl _)
    (@Phrase.within_mono (.value v) _ _ (Nat.le_max_left _ _) hdepth)
  have hread' := reads_of_derives hderives' _ (max depth depth') (Nat.le_refl _)
    (@Phrase.within_mono (.value w) _ _ (Nat.le_max_right _ _) hdepth')
  rw [hread] at hread'
  injection hread' with hpair
  injection hpair

end FaultGate.Json
