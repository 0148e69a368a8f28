import FaultGate.Proofs.Yaml.Entries
import FaultGate.Yaml.Merge

/-!
# Entries laid over entries

Laying a mapping over another goes through the overlay's entries one by one and
changes the base as it goes, so what an entry meets is not the base but what the
entries before it have made of the base. With unique keys this makes no
difference. An entry is the only one that touches its key, hence what it finds
under the key is what the base had there, and the look-ups in the result are told
by look-ups in the two mappings that one began with.

The same goes for the keys, which is where the order comes from: a key that the
base has stays in its place, and any other is put at the end when its turn comes.
-/

namespace FaultGate.Yaml.Value

theorem merge_of_not_mapping {overlay : Value} (h : overlay.isMapping = false)
    (base : Value) : merge base overlay = overlay := by
  cases overlay with
  | mapping entries => cases h
  | null | bool | int | real | string | sequence | tagged => rw [merge]

theorem merge_of_base_not_mapping {base : Value} (h : base.isMapping = false)
    (overlay : Value) : merge base overlay = overlay := by
  cases overlay with
  | mapping entries =>
      cases base with
      | mapping own => cases h
      | null | bool | int | real | string | sequence | tagged => simp only [merge]
  | null | bool | int | real | string | sequence | tagged => rw [merge]

theorem merge_mapping (entries overlay : List (Value × Value)) :
    merge (.mapping entries) (.mapping overlay) = .mapping (mergeEntries entries overlay) := by
  rw [merge]

/-- A value laid over what stands in its place, if anything does. -/
def laid : Option Value → Value → Value
  | none, v => v
  | some old, v => merge old v

/-! ## One entry -/

section Alter

variable {key new : Value} {old : Value → Value}

theorem entry?_alter_same {k : Value} (h : same key k = true) :
    ∀ entries : List (Value × Value),
      entry? k (alter entries key old new) =
        some (((Value.entry? key entries).map old).getD new)
  | [] => by
      simp only [alter, entry?, h, if_true, Option.map_none, Option.getD_none]
  | (own, v) :: rest => by
      rw [alter, entry?]
      cases hk : same own key with
      | true =>
          rw [if_pos rfl, entry?, ← same_congr_right h, hk]
          rfl
      | false =>
          rw [if_neg (by decide), entry?, ← same_congr_right h, hk,
            entry?_alter_same h rest]
          rfl

theorem entry?_alter_other {k : Value} (h : same key k = false) :
    ∀ entries : List (Value × Value),
      entry? k (alter entries key old new) = entry? k entries
  | [] => by
      simp only [alter, entry?, h, Bool.false_eq_true, if_false]
  | (own, v) :: rest => by
      rw [alter]
      cases hk : same own key with
      | true =>
          have hown : same own k = false := by rw [same_congr_left hk, h]
          rw [if_pos rfl, entry?, entry?, hown]
          rfl
      | false =>
          rw [if_neg (by decide), entry?, entry?, entry?_alter_other h rest]

theorem keys_alter (entries : List (Value × Value)) :
    (alter entries key old new).map Prod.fst =
      entries.map Prod.fst ++ if (Value.entry? key entries).isNone then [key] else [] := by
  induction entries with
  | nil => rfl
  | cons e rest ih =>
      rw [alter, entry?]
      split
      · simp only [List.map_cons, Option.isNone_some, Bool.false_eq_true, if_false,
          List.append_nil]
      · rw [List.map_cons, ih, List.map_cons, List.cons_append]

theorem alter_values {P : Value → Prop} {entries : List (Value × Value)}
    (hentries : ∀ e ∈ entries, P e.2) (hold : ∀ v, P v → P (old v)) (hnew : P new) :
    ∀ e ∈ alter entries key old new, P e.2 := by
  induction entries with
  | nil =>
      intro e he
      rw [List.mem_singleton.mp he]
      exact hnew
  | cons f rest ih =>
      obtain ⟨hf, hrest⟩ := List.forall_mem_cons.mp hentries
      intro e he
      rw [alter] at he
      split at he
      · rcases List.mem_cons.mp he with rfl | he
        · exact hold f.2 hf
        · exact hrest e he
      · rcases List.mem_cons.mp he with rfl | he
        · exact hf
        · exact ih hrest e he

end Alter

/-! ## All entries -/

/-- What is found under a key is what the overlay has there, laid over what the
base has there. -/
theorem entry?_mergeEntries {overlay : List (Value × Value)} :
    ∀ {entries : List (Value × Value)}, Unrepeated (overlay.map Prod.fst) → ∀ key,
      entry? key (mergeEntries entries overlay) =
        match entry? key overlay with
        | none => entry? key entries
        | some v => some (laid (Value.entry? key entries) v) := by
  induction overlay with
  | nil =>
      intro entries _ key
      rw [mergeEntries, entry?]
  | cons e rest ih =>
      intro entries hu key
      rw [List.map_cons, Unrepeated, List.pairwise_cons] at hu
      rw [mergeEntries, ih hu.2, entry?]
      cases hk : same e.1 key with
      | true =>
          -- no entry after this one has the key
          have hrest : entry? key rest = none := by
            rw [entry?_eq_none_iff]
            intro f hf
            rw [same_comm, ← same_congr_left hk]
            exact hu.1 f.1 (List.mem_map_of_mem hf)
          rw [hrest, if_pos rfl, entry?_alter_same hk, entry?_congr hk]
          cases entry? key entries with
          | none => rfl
          | some old => rfl
      | false =>
          rw [if_neg (by decide), entry?_alter_other hk]

/-- The keys of the base in their places, and the overlay's other keys after them. -/
theorem keys_mergeEntries {overlay : List (Value × Value)} :
    ∀ {entries : List (Value × Value)}, Unrepeated (overlay.map Prod.fst) →
      (mergeEntries entries overlay).map Prod.fst =
        entries.map Prod.fst ++
          (overlay.filter fun e => (Value.entry? e.1 entries).isNone).map Prod.fst := by
  induction overlay with
  | nil =>
      intro entries _
      rw [mergeEntries, List.filter_nil, List.map_nil, List.append_nil]
  | cons e rest ih =>
      intro entries hu
      rw [List.map_cons, Unrepeated, List.pairwise_cons] at hu
      have hrest : (rest.filter fun f =>
          (Value.entry? f.1 (alter entries e.1 (fun old => merge old e.2) e.2)).isNone) =
            rest.filter fun f => (Value.entry? f.1 entries).isNone := by
        refine List.filter_congr fun f hf => ?_
        rw [entry?_alter_other (hu.1 f.1 (List.mem_map_of_mem hf))]
      rw [mergeEntries, ih hu.2, hrest, keys_alter, List.append_assoc, List.filter_cons]
      split
      · rfl
      · rfl

theorem mergeEntries_values {P : Value → Prop} {overlay : List (Value × Value)} :
    ∀ {entries : List (Value × Value)}, (∀ e ∈ entries, P e.2) →
      (∀ e ∈ overlay, P e.2 ∧ ∀ old, P old → P (merge old e.2)) →
      ∀ e ∈ mergeEntries entries overlay, P e.2 := by
  induction overlay with
  | nil =>
      intro entries hentries _
      rw [mergeEntries]
      exact hentries
  | cons f rest ih =>
      intro entries hentries hoverlay
      obtain ⟨hf, hrest⟩ := List.forall_mem_cons.mp hoverlay
      rw [mergeEntries]
      exact ih (alter_values hentries hf.2 hf.1) hrest

/-! ## Unique keys stay unique -/

theorem unrepeated_mergeEntries {entries overlay : List (Value × Value)}
    (he : Unrepeated (entries.map Prod.fst)) (ho : Unrepeated (overlay.map Prod.fst)) :
    Unrepeated ((mergeEntries entries overlay).map Prod.fst) := by
  rw [keys_mergeEntries ho, Unrepeated, List.pairwise_append]
  refine ⟨he, ho.sublist (List.filter_sublist.map _), ?_⟩
  intro a ha b hb
  obtain ⟨e, hme, rfl⟩ := List.mem_map.mp ha
  obtain ⟨f, hmf, rfl⟩ := List.mem_map.mp hb
  have hnone := (List.mem_filter.mp hmf).2
  exact entry?_eq_none_iff.mp (Option.isNone_iff_eq_none.mp hnone) e hme

theorem merge_distinct {base overlay : Value} (hb : base.Distinct)
    (ho : overlay.Distinct) : (merge base overlay).Distinct := by
  induction overlay generalizing base with
  | null | bool | int | real | string | sequence | tagged =>
      rw [merge_of_not_mapping rfl]
      exact ho
  | mapping overlay _ ihValue =>
      cases hm : base.isMapping with
      | false =>
          rw [merge_of_base_not_mapping hm]
          exact ho
      | true =>
          cases hb with
          | mapping hunique hkeys hvalues =>
              rename_i entries
              cases ho with
              | mapping hounique hokeys hovalues =>
                  rw [merge_mapping]
                  refine .mapping (unrepeated_mergeEntries hunique hounique) ?_
                    (mergeEntries_values hvalues fun e he =>
                      ⟨hovalues e he, fun old hold => ihValue e he hold (hovalues e he)⟩)
                  intro e he
                  have hkey : e.1 ∈ (mergeEntries entries overlay).map Prod.fst :=
                    List.mem_map_of_mem he
                  rw [keys_mergeEntries hounique, List.mem_append] at hkey
                  rcases hkey with hkey | hkey
                  · obtain ⟨f, hf, heq⟩ := List.mem_map.mp hkey
                    exact heq ▸ hkeys f hf
                  · obtain ⟨f, hf, heq⟩ := List.mem_map.mp hkey
                    exact heq ▸ hokeys f (List.mem_filter.mp hf).1
          | _ => cases hm

end FaultGate.Yaml.Value
