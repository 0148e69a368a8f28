import FaultGate.Proofs.Yaml.Entries
import FaultGate.Yaml.Reading

/-!
# No key comes twice in a document

The laws about overlays ask for unique keys, in every mapping down to those inside of
keys. A value that was read out of a text has them, because reading refuses a key
that is the same value as one before it. So the laws hold of everything that comes
out of a file and nobody has to promise anything.

The entries of a mapping are collected with the last one first, and what is carried
through the reading is that they are distinct as they stand; that no two keys are the
same does not depend on their order.
-/

namespace FaultGate

theorem bind_eq_ok_iff {ε α β : Type} {x : Except ε α} {f : α → Except ε β} {b : β} :
    x >>= f = .ok b ↔ ∃ a, x = .ok a ∧ f a = .ok b := by
  cases x with
  | error e => exact ⟨fun h => (nomatch h), fun ⟨_, h, _⟩ => (nomatch h)⟩
  | ok a => exact ⟨fun h => ⟨a, rfl, h⟩, fun ⟨_, ha, h⟩ => by cases ha; exact h⟩

namespace Yaml

/-! ## Scalars -/

theorem Schema.null?_distinct {text : String} {v : Value} (h : null? text = some v) :
    v.Distinct := by
  rw [null?] at h
  split at h
  · injection h with h
    exact h ▸ .null
  · cases h

theorem Schema.bool?_distinct {text : String} {v : Value} (h : bool? text = some v) :
    v.Distinct := by
  rw [bool?] at h
  split at h
  · injection h with h
    exact h ▸ .bool true
  · split at h
    · injection h with h
      exact h ▸ .bool false
    · cases h

theorem Schema.plain?_distinct {text : String} {v : Value} (h : plain? text = some v) :
    v.Distinct := by
  rw [plain?] at h
  split at h
  · injection h with h
    exact h ▸ .null
  · split at h
    · rename_i hnull
      injection h with h
      exact h ▸ null?_distinct hnull
    · split at h
      · rename_i hbool
        injection h with h
        exact h ▸ bool?_distinct hbool
      · split at h
        · injection h with h
          exact h ▸ .int _
        · cases h
        · split at h
          · injection h with h
            exact h ▸ .string text
          · split at h
            · injection h with h
              exact h ▸ .real _
            · injection h with h
              exact h ▸ .string text

theorem Schema.standard?_distinct {tag text : String} {v : Value}
    (h : standard? tag text = some v) : v.Distinct := by
  rw [standard?] at h
  split at h
  · exact bool?_distinct h
  · split at h
    · split at h
      · injection h with h
        exact h ▸ .int _
      · cases h
    · split at h
      · obtain ⟨x, _, rfl⟩ := Option.map_eq_some_iff.mp h
        exact .real x
      · split at h
        · exact null?_distinct h
        · injection h with h
          exact h ▸ .string text

theorem Schema.scalar?_distinct {tag : Option String} {text : String} {plain : Bool}
    {v : Value} (h : scalar? tag text plain = some v) : v.Distinct := by
  rw [scalar?.eq_def] at h
  split at h
  · exact standard?_distinct h
  · split at h
    · exact plain?_distinct h
    · injection h with h
      exact h ▸ .string text

/-! ## Collections -/

namespace Value

theorem unrepeated_reverse {keys : List Value} (h : Unrepeated keys) :
    Unrepeated keys.reverse := by
  rw [Unrepeated, List.pairwise_reverse]
  exact h.imp fun hab => by rw [same_comm]; exact hab

theorem Distinct.mapping_nil : Distinct (.mapping []) :=
  .mapping .nil (fun e he => by cases he) fun e he => by cases he

theorem Distinct.reverse {entries : List (Value × Value)}
    (h : Distinct (.mapping entries)) : Distinct (.mapping entries.reverse) := by
  cases h with
  | mapping hunique hkeys hvalues =>
      refine .mapping ?_ (fun e he => hkeys e (List.mem_reverse.mp he))
        fun e he => hvalues e (List.mem_reverse.mp he)
      rw [List.map_reverse]
      exact unrepeated_reverse hunique

/-- One more entry, whose key is not there yet. -/
theorem Distinct.cons {entries : List (Value × Value)} {key v : Value}
    (h : Distinct (.mapping entries)) (hkey : key.Distinct) (hv : v.Distinct)
    (hnew : entry? key entries = none) : Distinct (.mapping ((key, v) :: entries)) := by
  cases h with
  | mapping hunique hkeys hvalues =>
      refine .mapping ?_ (List.forall_mem_cons.mpr ⟨hkey, hkeys⟩)
        (List.forall_mem_cons.mpr ⟨hv, hvalues⟩)
      rw [List.map_cons, Unrepeated, List.pairwise_cons]
      refine ⟨fun k hk => ?_, hunique⟩
      obtain ⟨e, he, rfl⟩ := List.mem_map.mp hk
      rw [same_comm]
      exact entry?_eq_none_iff.mp hnew e he

theorem Distinct.sequence_reverse {items : List Value} (h : ∀ v ∈ items, v.Distinct) :
    Distinct (.sequence items.reverse) :=
  .sequence fun v hv => h v (List.mem_reverse.mp hv)

end Value

/-! ## Documents -/

namespace Document

/-- Whatever is read with the given fuel has unique keys. -/
structure YieldsDistinct (d : Document) (fuel : Nat) : Prop where
  node : ∀ {depth tagged p v after},
    d.node fuel depth tagged p = .ok (v, after) → v.Distinct
  items : ∀ {depth done p v after}, (∀ u ∈ done, Value.Distinct u) →
    d.items fuel depth done p = .ok (v, after) → v.Distinct
  entries : ∀ {depth tagged done p v after}, Value.Distinct (.mapping done) →
    d.entries fuel depth tagged done p = .ok (v, after) → v.Distinct

section Step

variable {d : Document} {fuel depth : Nat} {tagged : Bool} {p after : Place} {v : Value}

theorem YieldsDistinct.tagged_node (ih : d.YieldsDistinct fuel) {own : String}
    (h : (do
      let (v, after) ← d.node fuel depth true p
      return (Value.tagged own v, after)) = Except.ok (v, after)) : v.Distinct := by
  obtain ⟨⟨content, place⟩, hcontent, h⟩ := bind_eq_ok_iff.mp h
  injection h with h
  injection h with h _
  exact h ▸ .tagged own (ih.node hcontent)

theorem YieldsDistinct.node_succ (ih : d.YieldsDistinct fuel)
    (h : d.node (fuel + 1) depth tagged p = .ok (v, after)) : v.Distinct := by
  rw [Document.node.eq_def] at h
  simp only [] at h
  split at h
  · obtain ⟨target, _, h⟩ := bind_eq_ok_iff.mp h
    obtain ⟨⟨content, place⟩, hcontent, h⟩ := bind_eq_ok_iff.mp h
    injection h with h
    injection h with h _
    exact h ▸ ih.node hcontent
  · split at h
    · exact ih.tagged_node h
    · split at h
      · rename_i hscalar
        injection h with h
        injection h with h _
        exact h ▸ Schema.scalar?_distinct hscalar
      · cases h
  · split at h
    · exact ih.tagged_node h
    · split at h
      · cases h
      · exact ih.items (fun u hu => by cases hu) h
  · split at h
    · exact ih.tagged_node h
    · split at h
      · cases h
      · exact ih.entries .mapping_nil h
  · cases h

theorem YieldsDistinct.items_succ (ih : d.YieldsDistinct fuel) {done : List Value}
    (hdone : ∀ u ∈ done, Value.Distinct u)
    (h : d.items (fuel + 1) depth done p = .ok (v, after)) : v.Distinct := by
  rw [Document.items] at h
  split at h
  · injection h with h
    injection h with h _
    exact h ▸ Value.Distinct.sequence_reverse hdone
  · split at h
    · rename_i hitem
      exact ih.items (List.forall_mem_cons.mpr ⟨ih.node hitem, hdone⟩) h
    · cases h

theorem YieldsDistinct.entries_succ (ih : d.YieldsDistinct fuel)
    {done : List (Value × Value)} (hdone : Value.Distinct (.mapping done))
    (h : d.entries (fuel + 1) depth tagged done p = .ok (v, after)) : v.Distinct := by
  rw [Document.entries] at h
  split at h
  · injection h with h
    injection h with h _
    exact h ▸ hdone.reverse
  · split at h
    · cases h
    · rename_i hkey
      split at h
      · cases h
      · rename_i hnew
        split at h
        · cases h
        · rename_i hvalue
          refine ih.entries (hdone.cons (ih.node hkey) (ih.node hvalue) ?_) h
          simpa using hnew

end Step

theorem yieldsDistinct (d : Document) (fuel : Nat) : d.YieldsDistinct fuel := by
  induction fuel with
  | zero =>
      refine ⟨fun h => ?_, fun _ h => ?_, fun _ h => ?_⟩
      · rw [Document.node] at h; cases h
      · rw [Document.items] at h; cases h
      · rw [Document.entries] at h; cases h
  | succ fuel ih => exact ⟨ih.node_succ, ih.items_succ, ih.entries_succ⟩

theorem value?_distinct {d : Document} {v : Value} (h : d.value? = .ok v) :
    v.Distinct := by
  obtain ⟨⟨content, place⟩, hcontent, h⟩ := bind_eq_ok_iff.mp h
  simp only [] at h
  split at h
  · cases h
  · cases h
  · injection h with h
    exact h ▸ (d.yieldsDistinct _).node hcontent

end Document

/-- Every value that a text can be read as has unique keys. -/
theorem Value.ofText_distinct {text : String} {v : Value} (h : ofText text = .ok v) :
    v.Distinct := by
  rw [ofText] at h
  split at h
  · injection h with h
    exact h ▸ .null
  · exact Document.value?_distinct h

end Yaml

end FaultGate
