import FaultGate.Proofs.Json.Skipping
import FaultGate.Server.Toggle

/-!
# What a body has to say to switch maintenance

The body of a switching request is read from left to right, and refused at the
first thing that is wrong with it. What it means can be said without any
order: it is a JSON document that carries one truth value, either as the only
item of an array, or as the only member of an object that has the wanted name,
among any others that have not.

This file proves the two the same, for every document that the general reader
of JSON can read. The members of an object go through `taken?`, which says what
one more member does to what was found so far; the reader is that function
folded over the members, and the fold is what the count of wanted members says.
-/

namespace FaultGate.Server.Toggle

open FaultGate.Json (Derives Value colon? key? length_le_of_derives
  length_lt_of_skipBlank length_skipBlank_le name? numeral?_head skipBlank
  skipKey?_of_key? skipValue? skipValue?_of_derives word?)
open FaultGate.Text (Pieces)

/-- The values of the members that have the wanted name. -/
def wantedValues (members : List (String × Value)) : List Value :=
  (members.filter fun m => m.1 = memberName).map Prod.snd

/-- Does a document carry a truth value? It is the one item of an array, or the
one member of the wanted name in an object, whatever else is in the object. -/
def Carries (document : Value) (b : Bool) : Prop :=
  match document with
  | .array items => items = [.bool b]
  | .object members => wantedValues members = [.bool b]
  | _ => False

/-! ## A truth value -/

theorem word?_of_other (word : String) {first c : Char} {others : List Char}
    {tail : Pieces} (hword : word.toList = first :: others) (hne : c ≠ first) :
    word? word (some c :: tail) = none := by
  rw [word?, hword, List.map_cons, List.isPrefixOf, beq_false_of_ne, Bool.false_and]
  · rfl
  · intro heq
    injection heq with heq
    exact hne heq.symm

theorem readFlag_of_other {c : Char} {tail : Pieces} (ht : c ≠ 't') (hf : c ≠ 'f') :
    readFlag (some c :: tail) = .error (unwanted (some c :: tail)) := by
  rw [readFlag, word?_of_other "true" rfl ht,
    word?_of_other "false" rfl hf]

/-- What the reader of truth values makes of a text that begins with a value:
it takes the two that it wants, and refuses all others. -/
theorem readFlag_of_derives {v : Value} {input rest : Pieces}
    (h : Derives (.value v) input rest) :
    (∃ b, v = .bool b ∧ readFlag input = .ok (b, rest)) ∨
      (∀ b, v ≠ .bool b) ∧ ∃ e, readFlag input = .error e := by
  cases h with
  | string | null | emptyArray | array | emptyObject | object =>
      refine Or.inr ⟨by simp, _, readFlag_of_other (by decide) (by decide)⟩
  | true h =>
      refine Or.inl ⟨true, rfl, ?_⟩
      rw [readFlag, h]
  | false h =>
      refine Or.inl ⟨false, rfl, ?_⟩
      rw [readFlag, h, word?_of_other "true" rfl (by decide)]
  | number h _ =>
      obtain ⟨c, tail, rfl, hc, _⟩ := numeral?_head h
      refine Or.inr ⟨by simp, _, readFlag_of_other ?_ ?_⟩
      · rintro rfl
        revert hc
        decide
      · rintro rfl
        revert hc
        decide

/-! ## The members of an object -/

/-- What was found so far, after one more member. A wanted member ends the
reading when it is the second one, or when it is no truth value. -/
def taken? (found : Option Bool) (m : String × Value) : Option (Option Bool) :=
  if m.1 = memberName then
    match found, m.2 with
    | none, .bool b => some (some b)
    | _, _ => none
  else some found

/-- What is done behind a member, when `found` is what was found by then. -/
def behindMember (steps fuel : Nat) (found : Option Bool) (after : Pieces) :
    Except Refusal (Bool × Pieces) :=
  match skipBlank after with
  | some ',' :: rest => readMembers steps fuel found (skipBlank rest)
  | some '}' :: rest =>
    match found with
    | some b => .ok (b, rest)
    | none => .error .notWanted
  | _ => .error .notJson

theorem name?_colon?_of_key? {key : String} {input inner : Pieces}
    (h : key? input = some (key, inner)) :
    ∃ after, name? input = some (key, after) ∧ colon? after = some inner := by
  rw [key?] at h
  split at h
  · cases h
  · rename_i name after hname
    obtain ⟨inner', hcolon, heq⟩ := Option.map_eq_some_iff.mp h
    injection heq with hkey hinner
    exact ⟨after, by rw [hname, hkey], by rw [hcolon, hinner]⟩

/-- One member of an object, read at its own place. -/
theorem readMembers_member {key : String} {v : Value} {input inner after : Pieces}
    {steps : Nat} (fuel : Nat) (found : Option Bool)
    (hk : key? input = some (key, inner))
    (hv : Derives (.value v) (skipBlank inner) after)
    (hsteps : 2 * input.length < steps) :
    match taken? found (key, v) with
    | none => ∃ e, readMembers steps (fuel + 1) found input = .error e
    | some found' => readMembers steps (fuel + 1) found input =
        behindMember steps fuel found' after := by
  obtain ⟨afterName, hname, hcolon⟩ := name?_colon?_of_key? hk
  have hinner := (skipKey?_of_key? hk).2
  rw [readMembers, hname, taken?.eq_def]
  simp only [hcolon]
  by_cases hwanted : key = memberName
  · cases found with
    | some b =>
        simp only [hwanted, if_true, Option.isSome_some, decide_true, Bool.and_self]
        exact ⟨_, rfl⟩
    | none =>
        simp only [hwanted, if_true, Option.isSome_none, Bool.and_false,
          Bool.false_eq_true, if_false]
        obtain ⟨b, rfl, hread⟩ | ⟨hno, e, hread⟩ := readFlag_of_derives hv
        · rw [hread]
          rfl
        · rw [hread]
          cases v with
          | bool b => exact absurd rfl (hno b)
          | null | number | string | array | object => exact ⟨e, rfl⟩
  · have hskip : skipValue? steps inner = some after :=
      skipValue?_of_derives hv (by omega)
    simp only [hwanted, if_false, decide_false, Bool.false_and, Bool.false_eq_true,
      hskip]
    rfl

/-- All members of an object: what reading them finds is what `taken?` finds,
folded over them. -/
theorem readMembers_of_derives {members : List (String × Value)}
    {input rest : Pieces} (h : Derives (.members members) input rest)
    (steps fuel : Nat) (found : Option Bool) (hsteps : 2 * input.length < steps)
    (hfuel : input.length < fuel) :
    match members.foldlM taken? found with
    | some (some b) => readMembers steps fuel found input = .ok (b, rest)
    | _ => ∃ e, readMembers steps fuel found input = .error e := by
  induction members generalizing input fuel found with
  | nil => cases h
  | cons m members ih =>
      obtain ⟨fuel, rfl⟩ : ∃ less, fuel = less + 1 := ⟨fuel - 1, by omega⟩
      rw [List.foldlM_cons]
      cases h with
      | @lastMember key v _ inner after _ hk hv hend =>
          have hmember := readMembers_member fuel found hk hv hsteps
          cases htaken : taken? found (key, v) with
          | none =>
              rw [htaken] at hmember
              exact hmember
          | some found' =>
              rw [htaken] at hmember
              simp only [behindMember, hend] at hmember
              cases found' with
              | none => exact ⟨_, hmember⟩
              | some b => exact hmember
      | @nextMember key v _ _ inner after next _ hk hv hsep hs =>
          have hmember := readMembers_member fuel found hk hv hsteps
          cases htaken : taken? found (key, v) with
          | none =>
              rw [htaken] at hmember
              exact hmember
          | some found' =>
              rw [htaken] at hmember
              simp only [behindMember, hsep] at hmember
              have hinner := (skipKey?_of_key? hk).2
              have hblank := length_skipBlank_le inner
              have hvalue := length_le_of_derives hv
              have hafter := length_lt_of_skipBlank hsep
              have hnext := length_skipBlank_le next
              have hrest := ih hs fuel found' (by omega) (by omega)
              rw [← hmember] at hrest
              exact hrest

theorem wantedValues_cons (m : String × Value) (members : List (String × Value)) :
    wantedValues (m :: members) =
      if m.1 = memberName then m.2 :: wantedValues members else wantedValues members := by
  rw [wantedValues, List.filter_cons]
  by_cases hwanted : m.1 = memberName
  · rw [if_pos (decide_eq_true hwanted), if_pos hwanted]
    rfl
  · rw [if_neg (by simp only [hwanted, decide_false, Bool.false_eq_true,
      not_false_eq_true]), if_neg hwanted]
    rfl

/-- Once the wanted member was found, no other one may come. -/
theorem foldlM_taken?_some (members : List (String × Value)) (b : Bool)
    (found : Option Bool) :
    members.foldlM taken? (some b) = some found ↔
      wantedValues members = [] ∧ found = some b := by
  induction members with
  | nil =>
      rw [List.foldlM_nil]
      constructor
      · intro h
        injection h with h
        exact ⟨rfl, h.symm⟩
      · rintro ⟨-, rfl⟩
        rfl
  | cons m members ih =>
      rw [List.foldlM_cons, wantedValues_cons, taken?.eq_def]
      by_cases hwanted : m.1 = memberName
      · rw [if_pos hwanted, if_pos hwanted]
        exact ⟨fun h => (by cases h), fun h => (by cases h.1)⟩
      · rw [if_neg hwanted, if_neg hwanted]
        exact ih

/-- The members carry a truth value when it is the value of the only wanted
one. -/
theorem foldlM_taken?_none (members : List (String × Value)) (b : Bool) :
    members.foldlM taken? none = some (some b) ↔ wantedValues members = [.bool b] := by
  induction members with
  | nil => exact ⟨fun h => (by cases h), fun h => (by cases h)⟩
  | cons m members ih =>
      rw [List.foldlM_cons, wantedValues_cons, taken?.eq_def]
      by_cases hwanted : m.1 = memberName
      · rw [if_pos hwanted, if_pos hwanted]
        cases hv : m.2 with
        | bool b' =>
            refine (foldlM_taken?_some members b' (some b)).trans ?_
            simp only [List.cons.injEq, Value.bool.injEq, Option.some.injEq]
            constructor
            · rintro ⟨hnil, rfl⟩
              exact ⟨rfl, hnil⟩
            · rintro ⟨rfl, hnil⟩
              exact ⟨hnil, rfl⟩
        | null | number | string | array | object =>
            exact ⟨fun h => (by cases h), fun h => (by cases h)⟩
      · rw [if_neg hwanted, if_neg hwanted]
        exact ih

/-! ## Documents -/

theorem finish_of_blank {found : Bool} {rest : Pieces}
    (h : (skipBlank rest).isEmpty = true) : finish found rest = .ok found := by
  rw [finish, if_pos h]

/-- The items of an array, and what reading one truth value and then the end of
the array finds in them. -/
theorem readItem_of_derives {items : List Value} {input rest : Pieces} (b : Bool)
    (h : Derives (.items items) input rest) (hend : (skipBlank rest).isEmpty = true) :
    (match readFlag input with
      | .error e => .error e
      | .ok (found, rest) =>
        match skipBlank rest with
        | some ']' :: rest => finish found rest
        | _ => .error .notJson) = Except.ok (ε := Refusal) b ↔
      items = [.bool b] := by
  cases h with
  | lastItem hv hclose =>
      obtain ⟨b', rfl, hread⟩ | ⟨hno, e, hread⟩ := readFlag_of_derives hv
      · simp only [hread, hclose, finish_of_blank hend, Except.ok.injEq,
          List.cons.injEq, Value.bool.injEq, and_true]
      · rw [hread]
        refine ⟨fun h => (by cases h), fun h => ?_⟩
        injection h with h
        exact absurd h (hno b)
  | nextItem hv hsep hs =>
      refine ⟨fun h => ?_, fun h => ?_⟩
      · obtain ⟨b', rfl, hread⟩ | ⟨hno, e, hread⟩ := readFlag_of_derives hv
        · simp only [hread, hsep] at h
          cases h
        · rw [hread] at h
          cases h
      · injection h with _ h
        subst h
        cases hs

theorem ofPieces_of_other {c : Char} {input tail : Pieces}
    (hinput : skipBlank input = some c :: tail) (harray : c ≠ '[') (hobject : c ≠ '{') :
    ofPieces input = .error (unwanted (some c :: tail)) := by
  rw [ofPieces, hinput]
  split
  · rename_i heq
    injection heq with heq _
    injection heq with heq
    exact absurd heq hobject
  · rename_i heq
    injection heq with heq _
    injection heq with heq
    exact absurd heq harray
  · rfl

/-- A document switches maintenance exactly when it carries a truth value, and
to that value. -/
theorem ofPieces_eq_ok {input : Pieces} {document : Value} (b : Bool)
    (h : Value.ofPieces? input = some document) :
    ofPieces input = .ok b ↔ Carries document b := by
  obtain ⟨rest, hd, hend, -⟩ := Json.derives_of_ofPieces? h
  generalize hinput : skipBlank input = text at hd
  cases hd with
  | string | null | true | false =>
      rw [ofPieces_of_other hinput (by decide) (by decide)]
      exact ⟨fun h => (by cases h), fun h => h.elim⟩
  | number hn _ =>
      obtain ⟨c, tail, rfl, hc, _⟩ := numeral?_head hn
      rw [ofPieces_of_other hinput]
      · exact ⟨fun h => (by cases h), fun h => h.elim⟩
      · rintro rfl
        revert hc
        decide
      · rintro rfl
        revert hc
        decide
  | emptyArray hclose =>
      simp only [ofPieces, hinput, hclose, Carries]
      exact ⟨fun h => (by cases h), fun h => (by cases h)⟩
  | array hne hs =>
      simp only [ofPieces, hinput, Carries]
      exact readItem_of_derives b hs hend
  | emptyObject hclose =>
      simp only [ofPieces, hinput, hclose, Carries]
      exact ⟨fun h => (by cases h), fun h => (by cases h)⟩
  | object hne hs =>
      rename_i members inner
      have hblank := length_lt_of_skipBlank hinput
      have hinner := length_skipBlank_le inner
      have hread := readMembers_of_derives hs (2 * input.length + 2)
        (input.length + 1) none (by omega) (by omega)
      rw [Carries, ← foldlM_taken?_none]
      simp only [ofPieces, hinput]
      split at hread
      · rename_i b' hfold
        simp only [hread, hfold, finish_of_blank hend, Except.ok.injEq,
          Option.some.injEq]
      · rename_i hfold
        obtain ⟨e, hread⟩ := hread
        rw [hread]
        exact ⟨fun h => (by cases h), fun h => absurd h (hfold b)⟩

/-- A request whose body is a document: when it switches maintenance, and to
what. -/
theorem ofRequest_eq_ok {r : Http.Request} {document : Value} (b : Bool)
    (h : Value.ofBytes? r.body = some document) :
    ofRequest r = .ok b ↔
      announcesJson r = true ∧ r.body.length ≤ maxBody ∧ Carries document b := by
  rw [ofRequest, ← ofPieces_eq_ok b h]
  by_cases hmedia : announcesJson r = true
  · by_cases hlong : maxBody < r.body.length
    · rw [hmedia, if_neg (by decide), if_pos hlong]
      exact ⟨fun h => (by cases h), fun h => by omega⟩
    · rw [hmedia, if_neg (by decide), if_neg hlong]
      exact ⟨fun h => ⟨rfl, by omega, h⟩, fun h => h.2.2⟩
  · rw [if_pos (by rw [Bool.not_eq_true] at hmedia; rw [hmedia]; rfl)]
    exact ⟨fun h => (by cases h), fun h => absurd h.1 hmedia⟩

end FaultGate.Server.Toggle
