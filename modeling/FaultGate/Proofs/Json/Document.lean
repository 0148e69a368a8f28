import FaultGate.Proofs.Json.Grammar
import FaultGate.Proofs.Json.Spelling

/-!
# JSON documents as texts

What a document is, said without any reader: values and the punctuation between
them, with blanks wherever they may stand. Together with the spelling of
strings and numbers this is the whole grammar of JSON, and a text that keeps to
it can be read by anyone who reads JSON.

`derives_of_written` is the bridge to the rules that a text is taken apart by.
Whatever is written as a phrase is derived as that phrase, from a text that
goes on behind it. Where a value is followed by something else of the document,
that is a blank, a comma or a closing bracket, so a number among the values is
read to its end.
-/

namespace FaultGate.Json

open FaultGate.Text (Pieces)

/-! ## Values -/

/-- The name of a member, and the colon behind it. -/
inductive SpellsKey : List Char → String → Prop where
  | mk {inner blank : List Char} {key : String} (h : Spells inner key.toList)
      (hb : Blank blank) : SpellsKey ('"' :: (inner ++ '"' :: (blank ++ [':']))) key

/-- The text of a phrase, with nothing before it and nothing behind it. -/
inductive Written : Phrase → List Char → Prop where
  | string {s : String} {inner : List Char} (h : Spells inner s.toList) :
      Written (.value (.string s)) ('"' :: (inner ++ ['"']))
  | null : Written (.value .null) ['n', 'u', 'l', 'l']
  | true : Written (.value (.bool true)) ['t', 'r', 'u', 'e']
  | false : Written (.value (.bool false)) ['f', 'a', 'l', 's', 'e']
  | number {text : List Char} {numeral : Numeral} {n : Number}
      (h : SpellsNumeral text numeral) (hn : numeral.value? = some n) :
      Written (.value (.number n)) text
  | emptyArray {blank : List Char} (hb : Blank blank) :
      Written (.value (.array [])) ('[' :: (blank ++ [']']))
  | array {vs : List Value} {blank text : List Char} (hb : Blank blank)
      (h : Written (.items vs) text) :
      Written (.value (.array vs)) ('[' :: (blank ++ text))
  | emptyObject {blank : List Char} (hb : Blank blank) :
      Written (.value (.object [])) ('\x7b' :: (blank ++ ['\x7d']))
  | object {ms : List (String × Value)} {blank text : List Char} (hb : Blank blank)
      (h : Written (.members ms) text) :
      Written (.value (.object ms)) ('\x7b' :: (blank ++ text))
  | lastItem {v : Value} {text blank : List Char} (h : Written (.value v) text)
      (hb : Blank blank) : Written (.items [v]) (text ++ (blank ++ [']']))
  | nextItem {v : Value} {vs : List Value} {text blank blank' texts : List Char}
      (h : Written (.value v) text) (hb : Blank blank) (hb' : Blank blank')
      (hs : Written (.items vs) texts) :
      Written (.items (v :: vs)) (text ++ (blank ++ ',' :: (blank' ++ texts)))
  | lastMember {key : String} {v : Value} {name blank text blank' : List Char}
      (hk : SpellsKey name key) (hb : Blank blank) (h : Written (.value v) text)
      (hb' : Blank blank') :
      Written (.members [(key, v)]) (name ++ (blank ++ (text ++ (blank' ++ ['\x7d']))))
  | nextMember {key : String} {v : Value} {ms : List (String × Value)}
      {name blank text blank' blank'' texts : List Char} (hk : SpellsKey name key)
      (hb : Blank blank) (h : Written (.value v) text) (hb' : Blank blank')
      (hb'' : Blank blank'') (hs : Written (.members ms) texts) :
      Written (.members ((key, v) :: ms))
        (name ++ (blank ++ (text ++ (blank' ++ ',' :: (blank'' ++ texts)))))

/-- A document: a value, and blanks around it. -/
def Document (v : Value) (text : String) : Prop :=
  ∃ before inner after, Blank before ∧ Written (.value v) inner ∧ Blank after ∧
    text.toList = before ++ (inner ++ after)

theorem Written.document {v : Value} {text : String} (h : Written (.value v) text.toList) :
    Document v text := by
  refine ⟨[], text.toList, [], blank_nil, h, blank_nil, ?_⟩
  rw [List.nil_append, List.append_nil]

/-- A character that a phrase can begin with. -/
def Opens (c : Char) : Prop :=
  isBlank (some c) = false ∧ c ≠ ']' ∧ c ≠ '\x7d'

theorem opens_digitChar {d : Nat} (h : d < 10) : Opens d.digitChar := by
  have hall : ∀ n < 10, isBlank (some (Nat.digitChar n)) = false ∧
      Nat.digitChar n ≠ ']' ∧ Nat.digitChar n ≠ '\x7d' := by
    decide
  exact hall d h

theorem opens_of_spellsNumeral {text : List Char} {n : Numeral}
    (h : SpellsNumeral text n) : ∃ c tail, text = c :: tail ∧ Opens c := by
  obtain @⟨negative, whole, _, _, _, _, hne, hds, _, _, _⟩ := h
  cases negative with
  | true => exact ⟨'-', _, rfl, by decide, by decide, by decide⟩
  | false =>
      obtain ⟨d, ds, rfl⟩ := List.exists_cons_of_ne_nil hne
      exact ⟨d.digitChar, _, rfl, opens_digitChar (hds d List.mem_cons_self)⟩

theorem Written.opens {phrase : Phrase} {text : List Char} (h : Written phrase text) :
    ∃ c tail, text = c :: tail ∧ Opens c := by
  induction h with
  | string | null | true | false | emptyArray | array | emptyObject | object =>
      exact ⟨_, _, rfl, by decide, by decide, by decide⟩
  | number h => exact opens_of_spellsNumeral h
  | lastItem _ _ ih | nextItem _ _ _ _ ih =>
      obtain ⟨c, tail, rfl, hc⟩ := ih
      exact ⟨c, _, rfl, hc⟩
  | lastMember hk | nextMember hk =>
      obtain ⟨_, _⟩ := hk
      exact ⟨'"', _, rfl, by decide, by decide, by decide⟩

/-- Blanks before a phrase are skipped, and nothing of the phrase is. -/
theorem Written.skipBlank_append {phrase : Phrase} {text blank : List Char}
    (h : Written phrase text) (hb : Blank blank) (rest : Pieces) :
    skipBlank (blank.map some ++ (text.map some ++ rest)) = text.map some ++ rest := by
  obtain ⟨c, tail, rfl, hc, _⟩ := h.opens
  exact skipBlank_blank_append hb hc _

theorem Written.not_opens_with {phrase : Phrase} {text : List Char}
    (h : Written phrase text) (rest tail : Pieces) :
    text.map some ++ rest ≠ some ']' :: tail ∧
      text.map some ++ rest ≠ some '\x7d' :: tail := by
  obtain ⟨c, others, rfl, _, hbracket, hbrace⟩ := h.opens
  refine ⟨fun heq => ?_, fun heq => ?_⟩
  · injection heq with heq _
    injection heq with heq
    exact hbracket heq
  · injection heq with heq _
    injection heq with heq
    exact hbrace heq

theorem follows_cons {c : Char} (h : c ∈ [' ', '\t', '\n', '\r', ',', ']', '\x7d'])
    (rest : Pieces) : Follows (some c :: rest) := by
  intro d tail heq
  injection heq with heq _
  injection heq with heq
  rw [← heq]
  exact h

/-- Behind blanks there may stand what may stand without them. -/
theorem follows_blank_append {blank : List Char} (hb : Blank blank) {rest : Pieces}
    (h : Follows rest) : Follows (blank.map some ++ rest) := by
  cases blank with
  | nil => exact h
  | cons c blank =>
      refine follows_cons ?_ _
      obtain rfl | rfl | rfl | rfl := hb c List.mem_cons_self <;> decide

theorem word?_append (word : String) (rest : Pieces) :
    word? word (word.toList.map some ++ rest) = some rest := by
  rw [word?, if_pos, ← String.length_toList, ← List.length_map some, List.drop_left]
  exact List.isPrefixOf_iff_prefix.mpr (List.prefix_append _ _)

theorem key?_of_spells {name : List Char} {key : String} (h : SpellsKey name key)
    (rest : Pieces) : key? (name.map some ++ rest) = some (key, rest) := by
  obtain ⟨hinner, hb⟩ := h
  simp only [List.map_cons, List.map_append, List.cons_append, List.append_assoc,
    List.map_nil, List.nil_append]
  rw [key?, name?, string?_of_spells hinner]
  simp only [colon?, skipBlank_blank_append hb (show isBlank (some ':') = false from rfl),
    Option.map_some]

/-- Whatever is written as a phrase is derived as that phrase, whatever may
follow it. -/
theorem derives_of_written {phrase : Phrase} {text : List Char} (h : Written phrase text)
    {rest : Pieces} (hrest : Follows rest) :
    Derives phrase (text.map some ++ rest) rest := by
  induction h generalizing rest with
  | string h =>
      simp only [List.map_cons, List.map_append, List.cons_append, List.append_assoc,
        List.map_nil, List.nil_append]
      exact .string (string?_of_spells h rest)
  | null => exact .null (word?_append "null" rest)
  | true => exact .true (word?_append "true" rest)
  | false => exact .false (word?_append "false" rest)
  | number h hn => exact .number (numeral?_of_spells h hrest) hn
  | emptyArray hb =>
      simp only [List.map_cons, List.map_append, List.cons_append, List.append_assoc,
        List.map_nil, List.nil_append]
      exact .emptyArray (skipBlank_blank_append hb rfl rest)
  | array hb h ih =>
      have hskip := h.skipBlank_append hb rest
      rw [List.map_cons, List.map_append, List.cons_append, List.append_assoc]
      refine .array (fun tail htail => ?_) ?_
      · rw [hskip] at htail
        exact (h.not_opens_with rest tail).1 htail
      · rw [hskip]
        exact ih hrest
  | emptyObject hb =>
      simp only [List.map_cons, List.map_append, List.cons_append, List.append_assoc,
        List.map_nil, List.nil_append]
      exact .emptyObject (skipBlank_blank_append hb rfl rest)
  | object hb h ih =>
      have hskip := h.skipBlank_append hb rest
      rw [List.map_cons, List.map_append, List.cons_append, List.append_assoc]
      refine .object (fun tail htail => ?_) ?_
      · rw [hskip] at htail
        exact (h.not_opens_with rest tail).2 htail
      · rw [hskip]
        exact ih hrest
  | lastItem h hb ih =>
      simp only [List.map_cons, List.map_append, List.cons_append, List.append_assoc,
        List.map_nil, List.nil_append]
      exact .lastItem (ih (follows_blank_append hb (follows_cons (by decide) rest)))
        (skipBlank_blank_append hb rfl rest)
  | nextItem h hb hb' hs ih ihs =>
      simp only [List.map_cons, List.map_append, List.cons_append, List.append_assoc]
      refine .nextItem (ih (follows_blank_append hb (follows_cons (by decide) _)))
        (skipBlank_blank_append hb rfl _) ?_
      rw [hs.skipBlank_append hb']
      exact ihs hrest
  | lastMember hk hb h hb' ih =>
      simp only [List.map_cons, List.map_append, List.cons_append, List.append_assoc,
        List.map_nil, List.nil_append]
      refine .lastMember (key?_of_spells hk _) ?_ (skipBlank_blank_append hb' rfl rest)
      rw [h.skipBlank_append hb]
      exact ih (follows_blank_append hb' (follows_cons (by decide) rest))
  | @nextMember _ _ _ _ _ _ _ blank'' texts hk hb h hb' hb'' hs ih ihs =>
      have hsep := skipBlank_blank_append hb' (show isBlank (some ',') = false from rfl)
        (blank''.map some ++ (texts.map some ++ rest))
      simp only [List.map_cons, List.map_append, List.cons_append, List.append_assoc]
      refine .nextMember (key?_of_spells hk _) ?_ hsep ?_
      · rw [h.skipBlank_append hb]
        exact ih (follows_blank_append hb' (follows_cons (by decide) _))
      · rw [hs.skipBlank_append hb'']
        exact ihs hrest

end FaultGate.Json
