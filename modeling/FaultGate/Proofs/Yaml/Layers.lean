import FaultGate.Proofs.Yaml.Paths

/-!
# Layers of settings

A base may get more than one overlay, and then it should make no difference how
they are laid: one of them twice, or two of them made into one beforehand. The
values compared here are compared down to the order of their keys, and both laws
come down to one observation. A list of entries with unique keys is known by its
keys in their order and by what each key leads to, so that an equation between
merged mappings is an equation between keys, which `keys_mergeEntries` has, and one
between look-ups, which `entry?_mergeEntries` has. What is left over are the values
under one key, and there the induction goes on.

Laying an overlay twice is harmless without exception. The second time it finds
all of its keys, appends none, and under each of them it is laid over what is
itself or has it laid over already.

Making two overlays into one is harmless with one exception. A layer that has
something other than a mapping where the layers below and above it both have one
takes away what is below it, but not if the layer above has been laid over it
first, because by then it is a mapping itself. `Severed` names the paths where this
happens, and `at?_of_severed` says what is there in the end, one way and the other.
-/

namespace FaultGate.Yaml.Value

theorem exists_mapping {v : Value} (h : v.isMapping = true) :
    ∃ entries, v = .mapping entries := by
  cases v with
  | mapping entries => exact ⟨entries, rfl⟩
  | null | bool | int | real | string | sequence | tagged => cases h

/-- Entries with unique keys are known by their keys and by what these lead to. -/
theorem entries_ext {as : List (Value × Value)} :
    ∀ {bs : List (Value × Value)}, as.map Prod.fst = bs.map Prod.fst →
      Unrepeated (as.map Prod.fst) → (∀ key, entry? key as = entry? key bs) → as = bs := by
  induction as with
  | nil =>
      intro bs hkeys _ _
      exact (List.map_eq_nil_iff.mp hkeys.symm).symm
  | cons e as ih =>
      intro bs hkeys hu h
      cases bs with
      | nil => cases hkeys
      | cons f bs =>
          rw [List.map_cons, List.map_cons, List.cons.injEq] at hkeys
          obtain ⟨hkey, hkeys⟩ := hkeys
          rw [List.map_cons, Unrepeated, List.pairwise_cons] at hu
          have hvalue : e.2 = f.2 := by
            have he := h e.1
            rw [Value.entry?, entry?, ← hkey, same_refl] at he
            simpa using he
          have hrest : ∀ key, entry? key as = entry? key bs := by
            intro key
            cases hk : same e.1 key with
            | true =>
                -- the key is that of the first entry, so no other one has it
                have hnone : ∀ {cs : List (Value × Value)},
                    cs.map Prod.fst = as.map Prod.fst → entry? key cs = none := by
                  intro cs hcs
                  rw [entry?_eq_none_iff]
                  intro g hg
                  have hg' : g.1 ∈ as.map Prod.fst := hcs ▸ List.mem_map_of_mem hg
                  rw [same_comm, ← same_congr_left hk]
                  exact hu.1 g.1 hg'
                rw [hnone rfl, hnone hkeys.symm]
            | false =>
                have he := h key
                rw [Value.entry?, entry?, ← hkey, hk] at he
                exact he
          rw [ih hkeys hu.2 hrest]
          exact congrArg (· :: bs) (Prod.ext hkey hvalue)

/-! ## One layer twice -/

theorem keys_mergeEntries_of_found {entries overlay : List (Value × Value)}
    (hu : Unrepeated (overlay.map Prod.fst))
    (h : ∀ e ∈ overlay, (Value.entry? e.1 entries).isSome = true) :
    (mergeEntries entries overlay).map Prod.fst = entries.map Prod.fst := by
  have hnone : (overlay.filter fun e => (Value.entry? e.1 entries).isNone) = [] := by
    rw [List.filter_eq_nil_iff]
    intro e he
    simpa [Option.isSome_iff_ne_none] using h e he
  rw [keys_mergeEntries hu, hnone, List.map_nil, List.append_nil]

theorem merge_self {v : Value} (h : v.Distinct) : merge v v = v := by
  induction v with
  | null | bool | int | real | string | sequence | tagged => rw [merge]
  | mapping entries _ ih =>
      have hu := h.unique
      rw [merge_mapping]
      refine congrArg Value.mapping
        (entries_ext ?_ (unrepeated_mergeEntries hu hu) fun key => ?_)
      · refine keys_mergeEntries_of_found hu fun e he => ?_
        rw [entry?_of_mem hu he (same_refl e.1)]
        rfl
      · rw [entry?_mergeEntries hu]
        cases hv : entry? key entries with
        | none => rfl
        | some v =>
            obtain ⟨e, he, _, rfl⟩ := exists_mem_of_entry? hv
            show some (merge e.2 e.2) = some e.2
            rw [ih e he (h.of_entry hv)]

theorem merge_again {base overlay : Value} (hb : base.Distinct) (ho : overlay.Distinct) :
    merge (merge base overlay) overlay = merge base overlay := by
  induction overlay generalizing base with
  | null | bool | int | real | string | sequence | tagged =>
      rw [merge_of_not_mapping rfl, merge_of_not_mapping rfl]
  | mapping overlay _ ih =>
      cases hm : base.isMapping with
      | false => rw [merge_of_base_not_mapping hm, merge_self ho]
      | true =>
          obtain ⟨entries, rfl⟩ := exists_mapping hm
          have hu := ho.unique
          have hmerged := unrepeated_mergeEntries hb.unique hu
          rw [merge_mapping, merge_mapping]
          refine congrArg Value.mapping
            (entries_ext ?_ (unrepeated_mergeEntries hmerged hu) fun key => ?_)
          · refine keys_mergeEntries_of_found hu fun e he => ?_
            rw [entry?_mergeEntries hu, entry?_of_mem hu he (same_refl e.1)]
            rfl
          · rw [entry?_mergeEntries hu, entry?_mergeEntries hu]
            cases hv : entry? key overlay with
            | none => rfl
            | some v =>
                have hd := ho.of_entry hv
                obtain ⟨e, he, _, rfl⟩ := exists_mem_of_entry? hv
                cases hold : entry? key entries with
                | none =>
                    show some (merge e.2 e.2) = some e.2
                    rw [merge_self hd]
                | some old =>
                    show some (merge (merge old e.2) e.2) = some (merge old e.2)
                    rw [ih e he (hb.of_entry hold) hd]

/-- Laying an overlay once more changes nothing, over whatever it was laid, nor does
laying it over itself or laying an empty one. -/
theorem relaid_overlay_changes_nothing {base overlay : Value} (hb : base.Distinct)
    (ho : overlay.Distinct) :
    merge (merge base overlay) overlay = merge base overlay ∧
      merge overlay overlay = overlay ∧
      (base.isMapping = true → merge base (.mapping []) = base) := by
  refine ⟨merge_again hb ho, merge_self ho, fun hm => ?_⟩
  obtain ⟨entries, rfl⟩ := exists_mapping hm
  rw [merge_mapping, mergeEntries]

theorem relaid_overlay_changes_nothing_nested :
    merge (merge nested takingBack) takingBack = merge nested takingBack ∧
      merge nested (.mapping []) = nested := by
  obtain ⟨hagain, _, hempty⟩ :=
    relaid_overlay_changes_nothing nested_distinct takingBack_distinct
  exact ⟨hagain, hempty rfl⟩

/-! ## Two layers made into one -/

/-- At the path the outer two have a mapping, and the middle one has something else. -/
def Severed (a b c : Value) (path : List Value) : Prop :=
  ∃ old cut new, a.at? path = some (.mapping old) ∧
    b.at? path = some cut ∧ cut.isMapping = false ∧
    c.at? path = some (.mapping new)

theorem at?_mapping_cons (entries : List (Value × Value)) (key : Value)
    (path : List Value) :
    (mapping entries).at? (key :: path) = (Value.entry? key entries).bind (·.at? path) := by
  rw [at?]
  cases entry? key entries <;> rfl

theorem at?_mapping_single (entries : List (Value × Value)) (key : Value) :
    (mapping entries).at? [key] = entry? key entries := by
  rw [at?_mapping_cons]
  cases entry? key entries <;> rfl

theorem exists_mem_of_at?_cons {entries : List (Value × Value)} {key v : Value}
    {path : List Value} (h : (mapping entries).at? (key :: path) = some v) :
    ∃ e ∈ entries, same e.1 key = true ∧ e.2.at? path = some v := by
  rw [at?_mapping_cons, Option.bind_eq_some_iff] at h
  obtain ⟨inner, hk, h⟩ := h
  obtain ⟨e, he, hsame, rfl⟩ := exists_mem_of_entry? hk
  exact ⟨e, he, hsame, h⟩

theorem Severed.cons {as bs cs : List (Value × Value)} {key x y z : Value}
    {path : List Value} (hx : entry? key as = some x) (hy : entry? key bs = some y)
    (hz : entry? key cs = some z) (h : Severed x y z path) :
    Severed (.mapping as) (.mapping bs) (.mapping cs) (key :: path) := by
  simpa only [Severed, at?_mapping_cons, hx, hy, hz, Option.bind_some] using h

theorem isNone_entry?_mergeEntries {entries overlay : List (Value × Value)}
    (hu : Unrepeated (overlay.map Prod.fst)) (key : Value) :
    (Value.entry? key (mergeEntries entries overlay)).isNone =
      ((Value.entry? key entries).isNone && (Value.entry? key overlay).isNone) := by
  rw [entry?_mergeEntries hu]
  cases entry? key overlay with
  | none => simp
  | some v => simp

theorem keys_mergeEntries_eq_filter {entries overlay : List (Value × Value)}
    (hu : Unrepeated (overlay.map Prod.fst)) :
    (mergeEntries entries overlay).map Prod.fst =
      entries.map Prod.fst ++
        (overlay.map Prod.fst).filter fun k => (Value.entry? k entries).isNone := by
  rw [keys_mergeEntries hu, List.filter_map]
  rfl

/-- The new keys of two overlays come in the same order, whichever way. -/
theorem keys_mergeEntries_assoc {as bs cs : List (Value × Value)}
    (hb : Unrepeated (bs.map Prod.fst)) (hc : Unrepeated (cs.map Prod.fst)) :
    (mergeEntries (mergeEntries as bs) cs).map Prod.fst =
      (mergeEntries as (mergeEntries bs cs)).map Prod.fst := by
  rw [keys_mergeEntries_eq_filter hc, keys_mergeEntries_eq_filter hb,
    keys_mergeEntries_eq_filter (unrepeated_mergeEntries hb hc),
    keys_mergeEntries_eq_filter hc, List.filter_append, List.filter_filter,
    List.append_assoc]
  simp only [isNone_entry?_mergeEntries hb]

theorem merge_assoc {a b c : Value} (ha : a.Distinct) (hb : b.Distinct) (hc : c.Distinct)
    (h : ∀ path, ¬ Severed a b c path) :
    merge (merge a b) c = merge a (merge b c) := by
  induction c generalizing a b with
  | null | bool | int | real | string | sequence | tagged =>
      rw [merge_of_not_mapping rfl, merge_of_not_mapping rfl, merge_of_not_mapping rfl]
  | mapping cs _ ih =>
      cases hmb : b.isMapping with
      | false =>
          rw [merge_of_not_mapping hmb, merge_of_base_not_mapping hmb]
          cases hma : a.isMapping with
          | false => rw [merge_of_base_not_mapping hma]
          | true =>
              obtain ⟨as, rfl⟩ := exists_mapping hma
              exact absurd ⟨as, b, cs, rfl, rfl, hmb, rfl⟩ (h [])
      | true =>
          cases hma : a.isMapping with
          | false => rw [merge_of_base_not_mapping hma, merge_of_base_not_mapping hma]
          | true =>
              obtain ⟨as, rfl⟩ := exists_mapping hma
              obtain ⟨bs, rfl⟩ := exists_mapping hmb
              have hbc := unrepeated_mergeEntries hb.unique hc.unique
              have hab := unrepeated_mergeEntries ha.unique hb.unique
              simp only [merge_mapping]
              refine congrArg Value.mapping
                (entries_ext (keys_mergeEntries_assoc hb.unique hc.unique)
                  (unrepeated_mergeEntries hab hc.unique) fun key => ?_)
              rw [entry?_mergeEntries hc.unique, entry?_mergeEntries hb.unique,
                entry?_mergeEntries hbc, entry?_mergeEntries hc.unique]
              cases hz : entry? key cs with
              | none => rfl
              | some z =>
                  cases hy : entry? key bs with
                  | none => rfl
                  | some y =>
                      cases hx : entry? key as with
                      | none => rfl
                      | some x =>
                          have hdz := hc.of_entry hz
                          obtain ⟨e, he, _, rfl⟩ := exists_mem_of_entry? hz
                          show some (merge (merge x y) e.2) = some (merge x (merge y e.2))
                          rw [ih e he (ha.of_entry hx) (hb.of_entry hy) hdz
                            fun path hs => h (key :: path) (hs.cons hx hy hz)]

/-- Where a path is severed the order matters: what the base has there is gone if
the overlays come one by one, and stays under the last if they come as one. -/
theorem at?_of_severed {a b c : Value} (hb : b.Distinct) (hc : c.Distinct)
    {path : List Value} (h : Severed a b c path) :
    ∃ old new, a.at? path = some (.mapping old) ∧ c.at? path = some (.mapping new) ∧
      (merge (merge a b) c).at? path = some (.mapping new) ∧
      (merge a (merge b c)).at? path = some (.mapping (mergeEntries old new)) := by
  obtain ⟨old, cut, new, hold, hcut, hm, hnew⟩ := h
  have hab : (merge a b).at? path = some cut := by
    rw [at?_merge hb, walk_eq_found_iff.mpr hcut]
    simp only [laid_of_not_mapping hm]
  have hbc : (merge b c).at? path = some (.mapping new) := by
    rw [at?_merge hc, walk_eq_found_iff.mpr hnew, hcut]
    exact congrArg some (merge_of_base_not_mapping hm _)
  refine ⟨old, new, hold, hnew, ?_, ?_⟩
  · rw [at?_merge hc, walk_eq_found_iff.mpr hnew, hab]
    exact congrArg some (merge_of_base_not_mapping hm _)
  · rw [at?_merge (merge_distinct hb hc), walk_eq_found_iff.mpr hbc, hold]
    exact congrArg some (merge_mapping old new)

/-- Two overlays may be made into one before they are laid, if nowhere the first one
cuts off what the base and the second one have. Where it does, the base's entries are
lost under the one order and kept under the other. -/
theorem overlays_combine_unless_severed {a b c : Value} (ha : a.Distinct)
    (hb : b.Distinct) (hc : c.Distinct) :
    ((∀ path, ¬ Severed a b c path) → merge (merge a b) c = merge a (merge b c)) ∧
    ∀ path, Severed a b c path →
      ∃ old new, a.at? path = some (.mapping old) ∧ c.at? path = some (.mapping new) ∧
        (merge (merge a b) c).at? path = some (.mapping new) ∧
        (merge a (merge b c)).at? path = some (.mapping (mergeEntries old new)) :=
  ⟨merge_assoc ha hb hc, fun _ h => at?_of_severed hb hc h⟩

/-- A mapping where the base has a setting, and one where `takingBack` has a number
and the base nothing. -/
def widening : Value :=
  .mapping [(.string "a", .mapping [(.string "b", .mapping [(.string "f", .int 6)])]),
    (.string "d", .mapping [(.string "e", .int 5)])]

theorem widening_distinct : widening.Distinct := by
  have hsingle : ∀ key {v : Value}, v.Distinct →
      Distinct (.mapping [(.string key, v)]) := by
    intro key v hv
    refine .mapping (by simp [Unrepeated]) (fun e he => ?_) fun e he => ?_
    · rw [List.mem_singleton.mp he]
      exact .string key
    · rw [List.mem_singleton.mp he]
      exact hv
  refine .mapping (by simp [Unrepeated, same]) ?_ ?_ <;>
    simp only [List.forall_mem_cons, List.not_mem_nil, false_imp_iff, implies_true, and_true]
  · exact ⟨.string "a", .string "d"⟩
  · exact ⟨hsingle "b" (hsingle "f" (.int 6)), hsingle "e" (.int 5)⟩

/-- Where `nested` has a mapping, `takingBack` has one too. -/
theorem not_severed_widening (path : List Value) :
    ¬ Severed nested takingBack widening path := by
  rintro ⟨old, cut, new, hold, hcut, hm, _⟩
  have hmapping : ∀ entries, some (mapping entries) ≠ some cut := by
    intro entries h
    injection h with h
    rw [← h] at hm
    cases hm
  cases path with
  | nil => exact hmapping _ hcut
  | cons key path =>
      obtain ⟨e, he, hk, hinner⟩ := exists_mem_of_at?_cons hold
      rw [List.mem_singleton.mp he] at hk hinner
      cases path with
      | nil => exact hmapping _ (by simpa [takingBack, at?, entry?, hk] using hcut)
      | cons key path =>
          -- below that there are only numbers
          obtain ⟨f, hf, _, hleaf⟩ := exists_mem_of_at?_cons hinner
          simp only [List.mem_cons, List.not_mem_nil, or_false] at hf
          rcases hf with rfl | rfl <;> cases path <;> cases hleaf

theorem overlays_combine_unless_severed_widening :
    merge (merge nested takingBack) widening = merge nested (merge takingBack widening) :=
  (overlays_combine_unless_severed nested_distinct takingBack_distinct
    widening_distinct).1 not_severed_widening

end FaultGate.Yaml.Value
