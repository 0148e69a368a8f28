import FaultGate.Proofs.Yaml.Merging

/-!
# What an overlay makes of a document, path by path

A reader of two files wants to know what is at a path of the result, and the
answer is in the overlay first. Following the path there can end in three ways. It
leads to a value; or it stops in a mapping that has no such key, and then the
overlay has nothing to say; or it runs into something that is no mapping, and then
everything that the base may have further down is gone. `walk` tells the three
apart, where a look-up would call the last two by one name.

With `walk` the whole law is one equation, and it goes through by induction on the
path, whatever the base is. Where the overlay leads to a value it is laid over
what the base has at the path, so that the one case which is left open is that of
two mappings. There the keys are known by their order, and the values by the same
law for longer paths.
-/

namespace FaultGate.Yaml.Value

/-- Where following a path ends. -/
inductive Walk where
  | found (v : Value)
  /-- In a mapping that lacks the next key. -/
  | lacking
  /-- At something that is no mapping, before the end of the path. -/
  | blocked

def walk : Value → List Value → Walk
  | v, [] => .found v
  | .mapping entries, key :: path =>
    match entry? key entries with
    | some inner => walk inner path
    | none => .lacking
  | _, _ :: _ => .blocked

theorem walk_of_not_mapping {v : Value} (h : v.isMapping = false) (key : Value)
    (path : List Value) : v.walk (key :: path) = .blocked := by
  cases v with
  | mapping entries => cases h
  | null | bool | int | real | string | sequence | tagged => rfl

theorem at?_of_not_mapping {v : Value} (h : v.isMapping = false) (key : Value)
    (path : List Value) : v.at? (key :: path) = none := by
  cases v with
  | mapping entries => cases h
  | null | bool | int | real | string | sequence | tagged => rfl

theorem at?_eq_walk (v : Value) (path : List Value) :
    v.at? path = match v.walk path with
      | .found w => some w
      | .lacking => none
      | .blocked => none := by
  induction path generalizing v with
  | nil => rfl
  | cons key path ih =>
      cases hm : v.isMapping with
      | false => rw [at?_of_not_mapping hm, walk_of_not_mapping hm]
      | true =>
          cases v with
          | mapping entries =>
              rw [at?, walk]
              cases entry? key entries with
              | none => rfl
              | some inner => exact ih inner
          | null | bool | int | real | string | sequence | tagged => cases hm

theorem walk_eq_found_iff {v w : Value} {path : List Value} :
    v.walk path = .found w ↔ v.at? path = some w := by
  rw [at?_eq_walk]
  cases v.walk path with
  | found u => simp only [Walk.found.injEq, Option.some.injEq]
  | lacking => exact ⟨fun h => (by cases h), fun h => (by cases h)⟩
  | blocked => exact ⟨fun h => (by cases h), fun h => (by cases h)⟩

/-- The path stops in a mapping that lacks the next key. -/
def Lacks (v : Value) (path : List Value) : Prop :=
  ∃ passed key rest entries, path = passed ++ key :: rest ∧
    v.at? passed = some (.mapping entries) ∧ entry? key entries = none

/-- The path stops before its end, at something that is no mapping. -/
def Blocks (v : Value) (path : List Value) : Prop :=
  ∃ passed key rest inner, path = passed ++ key :: rest ∧
    v.at? passed = some inner ∧ inner.isMapping = false

theorem walk_append {v inner : Value} {passed : List Value}
    (h : v.at? passed = some inner) (rest : List Value) :
    v.walk (passed ++ rest) = inner.walk rest := by
  induction passed generalizing v with
  | nil =>
      injection h with h
      rw [h]
      rfl
  | cons key passed ih =>
      cases v with
      | mapping entries =>
          rw [at?] at h
          rw [List.cons_append, walk]
          cases hk : entry? key entries with
          | none => rw [hk] at h; cases h
          | some child =>
              rw [hk] at h
              exact ih h
      | null | bool | int | real | string | sequence | tagged => cases h

theorem walk_of_lacks {v : Value} {path : List Value} (h : v.Lacks path) :
    v.walk path = .lacking := by
  obtain ⟨passed, key, rest, entries, rfl, hpassed, hkey⟩ := h
  rw [walk_append hpassed, walk, hkey]

theorem walk_of_blocks {v : Value} {path : List Value} (h : v.Blocks path) :
    v.walk path = .blocked := by
  obtain ⟨passed, key, rest, inner, rfl, hpassed, hinner⟩ := h
  rw [walk_append hpassed, walk_of_not_mapping hinner]

/-- There is no fourth way for a path to end. -/
theorem walk_cases (v : Value) (path : List Value) :
    (∃ w, v.at? path = some w) ∨ v.Lacks path ∨ v.Blocks path := by
  induction path generalizing v with
  | nil => exact Or.inl ⟨v, rfl⟩
  | cons key path ih =>
      cases hm : v.isMapping with
      | false => exact Or.inr (Or.inr ⟨[], key, path, v, rfl, rfl, hm⟩)
      | true =>
          cases v with
          | mapping entries =>
              cases hk : entry? key entries with
              | none => exact Or.inr (Or.inl ⟨[], key, path, entries, rfl, rfl, hk⟩)
              | some inner =>
                  have hstep : ∀ passed,
                      (mapping entries).at? (key :: passed) = inner.at? passed := by
                    intro passed
                    rw [at?, hk]
                  rcases ih inner with ⟨w, hw⟩ | hlacks | hblocks
                  · exact Or.inl ⟨w, by rw [hstep, hw]⟩
                  · obtain ⟨passed, next, rest, own, rfl, hpassed, hnext⟩ := hlacks
                    exact Or.inr (Or.inl ⟨key :: passed, next, rest, own, rfl,
                      (hstep passed).trans hpassed, hnext⟩)
                  · obtain ⟨passed, next, rest, own, rfl, hpassed, hown⟩ := hblocks
                    exact Or.inr (Or.inr ⟨key :: passed, next, rest, own, rfl,
                      (hstep passed).trans hpassed, hown⟩)
          | null | bool | int | real | string | sequence | tagged => cases hm

/-! ## The law -/

theorem Distinct.of_entry {entries : List (Value × Value)} {key v : Value}
    (h : Distinct (.mapping entries)) (hv : entry? key entries = some v) : v.Distinct := by
  cases h with
  | mapping _ _ hvalues =>
      obtain ⟨e, he, _, rfl⟩ := exists_mem_of_entry? hv
      exact hvalues e he

theorem Distinct.unique {entries : List (Value × Value)}
    (h : Distinct (.mapping entries)) : Unrepeated (entries.map Prod.fst) := by
  cases h with
  | mapping hunique _ _ => exact hunique

theorem Distinct.of_at? {v w : Value} {path : List Value} (h : v.Distinct)
    (hw : v.at? path = some w) : w.Distinct := by
  induction path generalizing v with
  | nil =>
      injection hw with hw
      exact hw ▸ h
  | cons key path ih =>
      cases v with
      | mapping entries =>
          rw [at?] at hw
          cases hk : entry? key entries with
          | none => rw [hk] at hw; cases hw
          | some inner =>
              rw [hk] at hw
              exact ih (h.of_entry hk) hw
      | null | bool | int | real | string | sequence | tagged => cases hw

/-- What is at a path of the result. -/
theorem at?_merge {overlay : Value} (ho : overlay.Distinct) (base : Value)
    (path : List Value) :
    (merge base overlay).at? path = match overlay.walk path with
      | .found v => some (laid (base.at? path) v)
      | .lacking => base.at? path
      | .blocked => none := by
  induction path generalizing base overlay with
  | nil => rfl
  | cons key path ih =>
      cases hm : overlay.isMapping with
      | false =>
          rw [merge_of_not_mapping hm, at?_of_not_mapping hm, walk_of_not_mapping hm]
      | true =>
          cases hb : base.isMapping with
          | false =>
              -- the overlay is taken whole, and the base had nothing there anyway
              rw [merge_of_base_not_mapping hb, at?_of_not_mapping hb, at?_eq_walk]
              cases overlay.walk (key :: path) with
              | found v => rfl
              | lacking => rfl
              | blocked => rfl
          | true =>
              cases overlay with
              | mapping new =>
                  cases base with
                  | mapping old =>
                      rw [merge_mapping, at?, entry?_mergeEntries ho.unique, walk, at?]
                      cases hnew : entry? key new with
                      | none => rfl
                      | some v =>
                          cases hold : entry? key old with
                          | none => exact at?_eq_walk v path
                          | some inner => exact ih (ho.of_entry hnew) inner
                  | null | bool | int | real | string | sequence | tagged => cases hb
              | null | bool | int | real | string | sequence | tagged => cases hm

theorem laid_of_not_mapping {v : Value} (h : v.isMapping = false) (old : Option Value) :
    laid old v = v := by
  cases old with
  | none => rfl
  | some old => exact merge_of_not_mapping h old

theorem laid_of_old_not_mapping {old : Option Value}
    (h : ∀ entries, old ≠ some (.mapping entries)) (v : Value) : laid old v = v := by
  cases old with
  | none => rfl
  | some old =>
      refine merge_of_base_not_mapping ?_ v
      cases old with
      | mapping entries => exact absurd rfl (h entries)
      | null | bool | int | real | string | sequence | tagged => rfl

/-- An overlay is laid over a base path by path. It decides what is at a path as
far as it leads there, and leaves to the base what it says nothing about; where
both have a mapping, the keys of the base come first and the new ones after them,
in the order of the overlay. The keys of all mappings stay unique, and keys are
told apart as tables of entries tell them apart. -/
theorem merge_by_paths {base overlay : Value} (hb : base.Distinct) (ho : overlay.Distinct) :
    (∀ path,
      (∀ v, overlay.at? path = some v → v.isMapping = false →
        (merge base overlay).at? path = some v) ∧
      (overlay.Lacks path → (merge base overlay).at? path = base.at? path) ∧
      (overlay.Blocks path → (merge base overlay).at? path = none) ∧
      (∀ new, overlay.at? path = some (.mapping new) →
        (∀ old, base.at? path ≠ some (.mapping old)) →
        (merge base overlay).at? path = some (.mapping new)) ∧
      (∀ new old, overlay.at? path = some (.mapping new) →
        base.at? path = some (.mapping old) →
        ∃ entries, (merge base overlay).at? path = some (.mapping entries) ∧
          entries.map Prod.fst =
            old.map Prod.fst ++
              (new.filter fun e => (Value.entry? e.1 old).isNone).map Prod.fst) ∧
      -- The cases are all there are.
      ((∃ v, overlay.at? path = some v) ∨ overlay.Lacks path ∨ overlay.Blocks path)) ∧
    (merge base overlay).Distinct ∧
    -- How keys are told apart.
    (Equivalence fun a b : Value => same a b = true) ∧
    ∀ as bs, Distinct (.mapping as) → Distinct (.mapping bs) →
      (same (.mapping as) (.mapping bs) = true ↔
        as.length = bs.length ∧
          ∀ e ∈ as, ∃ v, entry? e.1 bs = some v ∧ same e.2 v = true) := by
  refine ⟨fun path => ⟨?_, ?_, ?_, ?_, ?_, walk_cases overlay path⟩,
    merge_distinct hb ho, same_equivalence,
    fun as bs ha hb => same_mapping_iff_lookup ha.unique hb.unique⟩
  · intro v hv hmapping
    rw [at?_merge ho, walk_eq_found_iff.mpr hv]
    simp only [laid_of_not_mapping hmapping]
  · intro h
    rw [at?_merge ho, walk_of_lacks h]
  · intro h
    rw [at?_merge ho, walk_of_blocks h]
  · intro new hnew hold
    rw [at?_merge ho, walk_eq_found_iff.mpr hnew]
    simp only [laid_of_old_not_mapping hold]
  · intro new old hnew hold
    refine ⟨mergeEntries old new, ?_, keys_mergeEntries ?_⟩
    · rw [at?_merge ho, walk_eq_found_iff.mpr hnew, hold]
      exact congrArg some (merge_mapping old new)
    · exact (ho.of_at? hnew).unique

/-- Two levels of settings, and an overlay that takes one of them back. -/
def nested : Value :=
  .mapping [(.string "a", .mapping [(.string "b", .int 1), (.string "c", .int 2)])]

def takingBack : Value :=
  .mapping [(.string "a", .mapping [(.string "c", .null)]), (.string "d", .int 4)]

theorem nested_distinct : nested.Distinct := by
  refine .mapping (by simp [Unrepeated]) (fun e he => ?_) (fun e he => ?_)
  · rw [List.mem_singleton.mp he]
    exact .string "a"
  · rw [List.mem_singleton.mp he]
    refine .mapping (by simp [Unrepeated, same]) ?_ ?_ <;>
      simp only [List.forall_mem_cons, List.not_mem_nil, false_imp_iff, implies_true, and_true]
    · exact ⟨.string "b", .string "c"⟩
    · exact ⟨.int 1, .int 2⟩

theorem takingBack_distinct : takingBack.Distinct := by
  refine .mapping (by simp [Unrepeated, same]) ?_ ?_ <;>
    simp only [List.forall_mem_cons, List.not_mem_nil, false_imp_iff, implies_true, and_true]
  · exact ⟨.string "a", .string "d"⟩
  · refine ⟨.mapping (by simp [Unrepeated]) ?_ ?_, .int 4⟩ <;>
      simp only [List.forall_mem_cons, List.not_mem_nil, false_imp_iff, implies_true,
        and_true]
    · exact .string "c"
    · exact .null

/-- The null is taken for a value, and the setting beside it stays. -/
theorem merge_by_paths_nested :
    (merge nested takingBack).at? [.string "a", .string "c"] = some .null ∧
      (merge nested takingBack).at? [.string "a", .string "b"] = some (.int 1) ∧
      (merge nested takingBack).at? [.string "d", .string "e"] = none ∧
      (merge nested takingBack).Distinct := by
  obtain ⟨hpaths, hdistinct, _⟩ := merge_by_paths nested_distinct takingBack_distinct
  refine ⟨?_, ?_, ?_, hdistinct⟩
  · obtain ⟨htaken, _⟩ := hpaths [.string "a", .string "c"]
    exact htaken .null rfl rfl
  · obtain ⟨_, hkept, _⟩ := hpaths [.string "a", .string "b"]
    rw [hkept ⟨[.string "a"], .string "b", [], _, rfl, rfl, rfl⟩]
    rfl
  · obtain ⟨_, _, hgone, _⟩ := hpaths [.string "d", .string "e"]
    exact hgone ⟨[.string "d"], .string "e", [], _, rfl, rfl, rfl⟩

end FaultGate.Yaml.Value
