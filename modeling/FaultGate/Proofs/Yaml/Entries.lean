import FaultGate.Proofs.Yaml.Sameness

/-!
# Entries with unique keys

A mapping is a list of entries, and its look-up takes the first entry that fits.
Where no two keys are the same value there is no other one, so that looking up
and being an entry are one thing, and the order of the entries matters to neither.
`Distinct` asks this of a value and of every mapping in it, those inside of keys
included.
-/

namespace FaultGate.Yaml.Value

/-- No two of the keys are the same value. -/
def Unrepeated (keys : List Value) : Prop :=
  keys.Pairwise fun a b => same a b = false

/-- The keys of every mapping in the value are unique. -/
inductive Distinct : Value → Prop
  | null : Distinct .null
  | bool (b : Bool) : Distinct (.bool b)
  | int (n : Int) : Distinct (.int n)
  | real (x : Number.Binary64) : Distinct (.real x)
  | string (s : String) : Distinct (.string s)
  | sequence {items : List Value} (parts : ∀ v ∈ items, Distinct v) :
    Distinct (.sequence items)
  | mapping {entries : List (Value × Value)} (unique : Unrepeated (entries.map Prod.fst))
    (keys : ∀ e ∈ entries, Distinct e.1) (values : ∀ e ∈ entries, Distinct e.2) :
    Distinct (.mapping entries)
  | tagged (tag : String) {content : Value} (part : Distinct content) :
    Distinct (.tagged tag content)

/-! ## Looking up -/

theorem entry?_congr {key other : Value} (h : same key other = true)
    (entries : List (Value × Value)) : entry? key entries = entry? other entries := by
  induction entries with
  | nil => rfl
  | cons e rest ih => rw [Value.entry?, entry?, ih, same_congr_right h]

theorem entry?_eq_none_iff {key : Value} {entries : List (Value × Value)} :
    entry? key entries = none ↔ ∀ e ∈ entries, same e.1 key = false := by
  induction entries with
  | nil => exact ⟨fun _ e he => (by cases he), fun _ => rfl⟩
  | cons e rest ih =>
      rw [Value.entry?, List.forall_mem_cons]
      split
      · rename_i hk
        rw [hk]
        exact ⟨fun h => (by cases h), fun h => (by cases h.1)⟩
      · rename_i hk
        rw [ih]
        exact ⟨fun h => ⟨Bool.eq_false_iff.mpr hk, h⟩, fun h => h.2⟩

theorem exists_mem_of_entry? {key v : Value} {entries : List (Value × Value)}
    (h : entry? key entries = some v) : ∃ e ∈ entries, same e.1 key = true ∧ e.2 = v := by
  induction entries with
  | nil => cases h
  | cons e rest ih =>
      rw [Value.entry?] at h
      split at h
      · rename_i hk
        injection h with h
        exact ⟨e, List.mem_cons_self .., hk, h⟩
      · obtain ⟨f, hf, hk, hv⟩ := ih h
        exact ⟨f, List.mem_cons_of_mem _ hf, hk, hv⟩

theorem entry?_of_mem {key : Value} {entries : List (Value × Value)}
    (hu : Unrepeated (entries.map Prod.fst)) {e : Value × Value} (he : e ∈ entries)
    (hk : same e.1 key = true) : entry? key entries = some e.2 := by
  induction entries with
  | nil => cases he
  | cons f rest ih =>
      rw [List.map_cons, Unrepeated, List.pairwise_cons] at hu
      rw [Value.entry?]
      rcases List.mem_cons.mp he with rfl | he
      · rw [if_pos hk]
      · have hne := hu.1 e.1 (List.mem_map_of_mem he)
        rw [same_congr_right hk] at hne
        rw [hne]
        exact ih hu.2 he

/-- With unique keys, having an entry is finding its value under its key. -/
theorem exists_sameEntry_iff {entries : List (Value × Value)}
    (hu : Unrepeated (entries.map Prod.fst)) (e : Value × Value) :
    (∃ f ∈ entries, SameEntry e f) ↔
      ∃ v, entry? e.1 entries = some v ∧ same e.2 v = true := by
  constructor
  · rintro ⟨f, hf, hk, hv⟩
    exact ⟨f.2, entry?_of_mem hu hf (same_symm hk), hv⟩
  · rintro ⟨v, hv, hsame⟩
    obtain ⟨f, hf, hk, rfl⟩ := exists_mem_of_entry? hv
    exact ⟨f, hf, same_symm hk, hsame⟩

/-! ## Counting keys -/

/-- Keys that all have partners among others are no more than those, and where
they are as many, the others all have partners too. -/
theorem partners_of_unrepeated {keys : List Value} :
    ∀ {others : List Value}, Unrepeated keys →
      (∀ k ∈ keys, ∃ o ∈ others, same k o = true) →
      keys.length ≤ others.length ∧
        (keys.length = others.length → ∀ o ∈ others, ∃ k ∈ keys, same k o = true) := by
  induction keys with
  | nil =>
      intro others _ _
      refine ⟨Nat.zero_le _, fun hlen o ho => ?_⟩
      rw [List.eq_nil_of_length_eq_zero hlen.symm] at ho
      cases ho
  | cons k keys ih =>
      intro others hu hp
      rw [Unrepeated, List.pairwise_cons] at hu
      obtain ⟨hfirst, hrest⟩ := List.forall_mem_cons.mp hp
      obtain ⟨o, ho, hko⟩ := hfirst
      obtain ⟨before, after, rfl⟩ := List.append_of_mem ho
      -- the partner of the first key is nobody else's
      have hothers : ∀ k' ∈ keys, ∃ o' ∈ before ++ after, same k' o' = true := by
        intro k' hk'
        obtain ⟨o', ho', hsame⟩ := hrest k' hk'
        refine ⟨o', ?_, hsame⟩
        rcases List.mem_append.mp ho' with ho' | ho'
        · exact List.mem_append_left _ ho'
        · rcases List.mem_cons.mp ho' with rfl | ho'
          · have hne := hu.1 k' hk'
            rw [same_trans hko (same_symm hsame)] at hne
            cases hne
          · exact List.mem_append_right _ ho'
      obtain ⟨hle, hall⟩ := ih hu.2 hothers
      rw [List.length_append] at hle hall
      simp only [List.length_append, List.length_cons]
      refine ⟨by omega, fun hlen o' ho' => ?_⟩
      have hpartner : o' ∈ before ++ after → ∃ k' ∈ k :: keys, same k' o' = true := by
        intro hmem
        obtain ⟨k', hk', hsame⟩ := hall (by omega) o' hmem
        exact ⟨k', List.mem_cons_of_mem _ hk', hsame⟩
      rcases List.mem_append.mp ho' with ho' | ho'
      · exact hpartner (List.mem_append_left _ ho')
      · rcases List.mem_cons.mp ho' with rfl | ho'
        · exact ⟨k, List.mem_cons_self .., hko⟩
        · exact hpartner (List.mem_append_right _ ho')

theorem key_partners {as bs : List (Value × Value)}
    (h : ∀ e ∈ as, ∃ f ∈ bs, same e.1 f.1 = true) :
    ∀ k ∈ as.map Prod.fst, ∃ o ∈ bs.map Prod.fst, same k o = true := by
  intro k hk
  obtain ⟨e, he, rfl⟩ := List.mem_map.mp hk
  obtain ⟨f, hf, hsame⟩ := h e he
  exact ⟨f.1, List.mem_map_of_mem hf, hsame⟩

/-- Two mappings with unique keys are the same value if they have as many entries
and every key of the one leads to the same value in the other. -/
theorem same_mapping_iff_lookup {as bs : List (Value × Value)}
    (ha : Unrepeated (as.map Prod.fst)) (hb : Unrepeated (bs.map Prod.fst)) :
    same (.mapping as) (.mapping bs) = true ↔
      as.length = bs.length ∧
        ∀ e ∈ as, ∃ v, entry? e.1 bs = some v ∧ same e.2 v = true := by
  have hmapping : same (.mapping as) (.mapping bs) = true ↔
      (∀ e ∈ as, ∃ f ∈ bs, SameEntry e f) ∧ ∀ f ∈ bs, ∃ e ∈ as, SameEntry e f := by
    rw [same_mapping]
    constructor
    · rintro ⟨cs, heq, h⟩
      injection heq with heq
      rw [heq]
      exact h
    · exact fun h => ⟨bs, rfl, h⟩
  have hlookup : (∀ e ∈ as, ∃ f ∈ bs, SameEntry e f) ↔
      ∀ e ∈ as, ∃ v, entry? e.1 bs = some v ∧ same e.2 v = true :=
    forall₂_congr fun e _ => exists_sameEntry_iff hb e
  have hpartners : (∀ e ∈ as, ∃ f ∈ bs, SameEntry e f) →
      ∀ k ∈ as.map Prod.fst, ∃ o ∈ bs.map Prod.fst, same k o = true := fun hab =>
    key_partners fun e he => (hab e he).imp fun f hf => ⟨hf.1, hf.2.1⟩
  rw [hmapping, ← hlookup]
  constructor
  · rintro ⟨hab, hba⟩
    refine ⟨?_, hab⟩
    have hle := (partners_of_unrepeated ha (hpartners hab)).1
    have hge := (partners_of_unrepeated hb (key_partners fun f hf =>
      (hba f hf).imp fun e he => ⟨he.1, same_symm he.2.1⟩)).1
    simp only [List.length_map] at hle hge
    omega
  · rintro ⟨hlen, hab⟩
    refine ⟨hab, fun f hf => ?_⟩
    have hlength : (as.map Prod.fst).length = (bs.map Prod.fst).length := by
      rw [List.length_map, List.length_map, hlen]
    obtain ⟨k, hk, hsame⟩ := (partners_of_unrepeated ha (hpartners hab)).2 hlength f.1
      (List.mem_map_of_mem hf)
    obtain ⟨e, he, rfl⟩ := List.mem_map.mp hk
    obtain ⟨g, hg, hkey, hvalue⟩ := hab e he
    -- the key of the entry leads to one value only
    have hgf : g.2 = f.2 := by
      have hfound := entry?_of_mem hb hg (same_symm hkey)
      rw [entry?_of_mem hb hf (same_symm hsame)] at hfound
      injection hfound with hfound
      exact hfound.symm
    exact ⟨e, he, hsame, hgf ▸ hvalue⟩

end FaultGate.Yaml.Value
