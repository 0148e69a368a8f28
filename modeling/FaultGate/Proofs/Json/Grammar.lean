import FaultGate.Json.Value

/-!
# What a JSON text is, apart from reading it

The reader of JSON values runs on fuel, counts how deep it is nested and
carries along what it has read already. None of that belongs to the text. This
file says what a text is made of by rules, one for each form that a value, the
items of an array and the members of an object can take, and proves that what
the reader has read is derived by these rules. How deep it is nested is asked of
the value, and the reader never returns one that is nested deeper than it goes.

Strings and numbers are taken as the reader takes them; the rules are about
how values are put together. A second reader of the same texts, such as one
that only passes over a value, is then compared with the rules and not with
the first reader.
-/

namespace FaultGate.Json

open FaultGate.Text (Pieces)

/-- What a piece of text is derived as. -/
inductive Phrase where
  | value (v : Value)
  /-- The items of an array and its closing bracket. -/
  | items (vs : List Value)
  /-- The members of an object and its closing brace. -/
  | members (ms : List (String × Value))

/-- The text begins with a phrase, and this is what is left of it. No phrase
begins with a blank. -/
inductive Derives : Phrase → Pieces → Pieces → Prop where
  | string {s : String} {input rest : Pieces}
      (h : string? input = some (s, rest)) :
      Derives (.value (.string s)) (some '"' :: input) rest
  | null {input rest : Pieces} (h : word? "null" (some 'n' :: input) = some rest) :
      Derives (.value .null) (some 'n' :: input) rest
  | true {input rest : Pieces} (h : word? "true" (some 't' :: input) = some rest) :
      Derives (.value (.bool true)) (some 't' :: input) rest
  | false {input rest : Pieces} (h : word? "false" (some 'f' :: input) = some rest) :
      Derives (.value (.bool false)) (some 'f' :: input) rest
  | number {numeral : Numeral} {n : Number} {input rest : Pieces}
      (h : numeral? input = some (numeral, rest)) (hn : numeral.value? = some n) :
      Derives (.value (.number n)) input rest
  | emptyArray {input rest : Pieces} (h : skipBlank input = some ']' :: rest) :
      Derives (.value (.array [])) (some '[' :: input) rest
  | array {vs : List Value} {input rest : Pieces}
      (hne : ∀ tail, skipBlank input ≠ some ']' :: tail)
      (h : Derives (.items vs) (skipBlank input) rest) :
      Derives (.value (.array vs)) (some '[' :: input) rest
  | emptyObject {input rest : Pieces} (h : skipBlank input = some '}' :: rest) :
      Derives (.value (.object [])) (some '{' :: input) rest
  | object {ms : List (String × Value)} {input rest : Pieces}
      (hne : ∀ tail, skipBlank input ≠ some '}' :: tail)
      (h : Derives (.members ms) (skipBlank input) rest) :
      Derives (.value (.object ms)) (some '{' :: input) rest
  | lastItem {v : Value} {input after rest : Pieces}
      (h : Derives (.value v) input after)
      (hend : skipBlank after = some ']' :: rest) :
      Derives (.items [v]) input rest
  | nextItem {v : Value} {vs : List Value} {input after next rest : Pieces}
      (h : Derives (.value v) input after)
      (hsep : skipBlank after = some ',' :: next)
      (hs : Derives (.items vs) (skipBlank next) rest) :
      Derives (.items (v :: vs)) input rest
  | lastMember {key : String} {v : Value} {input inner after rest : Pieces}
      (hk : key? input = some (key, inner))
      (h : Derives (.value v) (skipBlank inner) after)
      (hend : skipBlank after = some '}' :: rest) :
      Derives (.members [(key, v)]) input rest
  | nextMember {key : String} {v : Value} {ms : List (String × Value)}
      {input inner after next rest : Pieces}
      (hk : key? input = some (key, inner))
      (h : Derives (.value v) (skipBlank inner) after)
      (hsep : skipBlank after = some ',' :: next)
      (hs : Derives (.members ms) (skipBlank next) rest) :
      Derives (.members ((key, v) :: ms)) input rest

/-- Are arrays and objects nested no deeper than this? -/
def Value.within : Nat → Value → Bool
  | 0, .array _ => false
  | 0, .object _ => false
  | depth + 1, .array items => items.all (Value.within depth)
  | depth + 1, .object members => members.all fun m => Value.within depth m.2
  | _, _ => true

/-- Is nothing in the phrase nested deeper than this? -/
def Phrase.within (depth : Nat) : Phrase → Bool
  | .value v => v.within depth
  | .items vs => vs.all (Value.within depth)
  | .members ms => ms.all fun m => Value.within depth m.2

/-- What has no brackets is nested in nothing. -/
theorem Phrase.within_scalar {v : Value} {depth : Nat} (h : v.within 0 = true) :
    Phrase.within depth (.value v) = true := by
  rw [Phrase.within]
  cases v with
  | array | object => cases h
  | null | bool | number | string => cases depth <;> rfl

theorem Phrase.within_nextItem {v : Value} {vs : List Value} {depth : Nat}
    (h : Phrase.within depth (.value v) = true)
    (hs : Phrase.within depth (.items vs) = true) :
    Phrase.within depth (.items (v :: vs)) = true := by
  rw [Phrase.within, List.all_cons, Bool.and_eq_true]
  exact ⟨h, hs⟩

theorem Phrase.within_nextMember {key : String} {v : Value}
    {ms : List (String × Value)} {depth : Nat}
    (h : Phrase.within depth (.value v) = true)
    (hs : Phrase.within depth (.members ms) = true) :
    Phrase.within depth (.members ((key, v) :: ms)) = true := by
  rw [Phrase.within, List.all_cons, Bool.and_eq_true]
  exact ⟨h, hs⟩

/-- A production that reads one form of value returns that value, and what the
form leaves. -/
theorem eq_and_eq_of_map {α : Type} {found : Option α} {v w : Value} {rest : α}
    (h : found.map (v, ·) = some (w, rest)) : w = v ∧ found = some rest := by
  obtain ⟨rest', hfound, heq⟩ := Option.map_eq_some_iff.mp h
  injection heq with hv hr
  exact ⟨hv.symm, by rw [hfound, hr]⟩

/-- What the three productions of the reader return, each by the rules and no
deeper than the reader goes. The induction is on the fuel they share; the items
and members that were read before are what the accumulator holds, last one
first. -/
theorem derives_of_fuel : ∀ fuel : Nat,
    (∀ {depth input v rest}, value? fuel depth input = some (v, rest) →
      Derives (.value v) input rest ∧ Phrase.within depth (.value v) = true) ∧
    (∀ {depth done input v rest}, items? fuel depth done input = some (v, rest) →
      ∃ vs, v = .array (done.reverse ++ vs) ∧ Derives (.items vs) input rest ∧
        Phrase.within depth (.items vs) = true) ∧
    (∀ {depth done input v rest},
      members? fuel depth done input = some (v, rest) →
      ∃ ms, v = .object (done.reverse ++ ms) ∧ Derives (.members ms) input rest ∧
        Phrase.within depth (.members ms) = true) := by
  intro fuel
  induction fuel with
  | zero =>
      refine ⟨fun h => ?_, fun h => ?_, fun h => ?_⟩
      · rw [value?] at h; cases h
      · rw [items?] at h; cases h
      · rw [members?] at h; cases h
  | succ fuel ih =>
      obtain ⟨ihValue, ihItems, ihMembers⟩ := ih
      refine ⟨fun {depth input v rest} h => ?_, fun {depth done input v rest} h => ?_,
        fun {depth done input v rest} h => ?_⟩
      · rw [value?.eq_def] at h
        simp only [] at h
        split at h
        · obtain ⟨⟨s, rest'⟩, hs, heq⟩ := Option.map_eq_some_iff.mp h
          injection heq with hv hr
          subst hv hr
          exact ⟨.string hs, Phrase.within_scalar rfl⟩
        · split at h
          · cases h
          · split at h
            · rename_i hclose
              injection h with h
              injection h with hv hr
              subst hv hr
              exact ⟨.emptyArray hclose, rfl⟩
            · rename_i hne
              obtain ⟨vs, rfl, hd, hin⟩ := ihItems h
              exact ⟨.array (fun tail htail => hne tail htail) hd, hin⟩
        · split at h
          · cases h
          · split at h
            · rename_i hclose
              injection h with h
              injection h with hv hr
              subst hv hr
              exact ⟨.emptyObject hclose, rfl⟩
            · rename_i hne
              obtain ⟨ms, rfl, hd, hin⟩ := ihMembers h
              exact ⟨.object (fun tail htail => hne tail htail) hd, hin⟩
        · obtain ⟨rfl, hw⟩ := eq_and_eq_of_map h
          exact ⟨.null hw, Phrase.within_scalar rfl⟩
        · obtain ⟨rfl, hw⟩ := eq_and_eq_of_map h
          exact ⟨.true hw, Phrase.within_scalar rfl⟩
        · obtain ⟨rfl, hw⟩ := eq_and_eq_of_map h
          exact ⟨.false hw, Phrase.within_scalar rfl⟩
        · obtain ⟨⟨numeral, rest'⟩, hn, h⟩ := Option.bind_eq_some_iff.mp h
          obtain ⟨n, hv, h⟩ := Option.bind_eq_some_iff.mp h
          injection h with h
          injection h with hv' hr
          subst hv' hr
          exact ⟨.number hn hv, Phrase.within_scalar rfl⟩
      · rw [items?] at h
        split at h
        · cases h
        · rename_i w after hw
          obtain ⟨hd, hin⟩ := ihValue hw
          split at h
          · rename_i next hsep
            obtain ⟨vs, rfl, hs, hins⟩ := ihItems h
            refine ⟨w :: vs, ?_, .nextItem hd hsep hs, Phrase.within_nextItem hin hins⟩
            rw [List.reverse_cons, List.append_assoc, List.singleton_append]
          · rename_i rest' hend
            injection h with h
            injection h with hv hr
            subst hv hr
            exact ⟨[w], by rw [List.reverse_cons], .lastItem hd hend,
              Phrase.within_nextItem hin rfl⟩
          · cases h
      · rw [members?] at h
        split at h
        · cases h
        · rename_i key inner hk
          split at h
          · cases h
          · rename_i w after hw
            obtain ⟨hd, hin⟩ := ihValue hw
            split at h
            · rename_i next hsep
              obtain ⟨ms, rfl, hs, hins⟩ := ihMembers h
              refine ⟨(key, w) :: ms, ?_, .nextMember hk hd hsep hs,
                Phrase.within_nextMember hin hins⟩
              rw [List.reverse_cons, List.append_assoc, List.singleton_append]
            · rename_i rest' hend
              injection h with h
              injection h with hv hr
              subst hv hr
              exact ⟨[(key, w)], by rw [List.reverse_cons], .lastMember hk hd hend,
                Phrase.within_nextMember hin rfl⟩
            · cases h

/-- A text that reads as a value is that value, between blanks. -/
theorem derives_of_ofPieces? {input : Pieces} {v : Value}
    (h : Value.ofPieces? input = some v) :
    ∃ rest, Derives (.value v) (skipBlank input) rest ∧
      (skipBlank rest).isEmpty = true ∧ v.within maxDepth = true := by
  rw [Value.ofPieces?] at h
  split at h
  · rename_i w rest hw
    split at h
    · rename_i hend
      injection h with h
      subst h
      obtain ⟨hd, hin⟩ := (derives_of_fuel _).1 hw
      exact ⟨rest, hd, hend, hin⟩
    · cases h
  · cases h

end FaultGate.Json
