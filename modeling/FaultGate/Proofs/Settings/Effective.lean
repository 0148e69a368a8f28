import FaultGate.Proofs.Settings.Files
import FaultGate.Proofs.Settings.Sections
import FaultGate.Proofs.Text.Utf8
import FaultGate.Proofs.Yaml.Layers

/-!
# Which file a setting comes from

There are two files and each of the settings may stand in either. What a maintainer
expects is simple: a setting is what the overlay says, or else what the base says, or
else its default. The program does something else. It lays one document over the
other, whatever is in them, and reads the result. This file proves that it comes to
the same, for documents in which sections are sections and keys are strings.

Reading is brought down to the settings first (`Handler.read_eq_ok_iff_settings`): each
of them has a path, and a document is read if what is at each path is. Then the
document that was made of two is looked at path by path. A path leads through a section
at most, and a section is nothing that could block it, so what is at the path is the
base's value, or the overlay's, or the one laid over the other. The last happens only to
two mappings, and no setting is a mapping, so nothing is read that way which would not
be refused anyway.

Which error is told is left open. It depends on the order of the entries, and two
documents with the same values at all paths may be refused for different reasons.
-/

namespace FaultGate.Settings

open FaultGate.Yaml (Value)
open FaultGate.Yaml.Value (Unrepeated Distinct at?_mapping_cons at?_mapping_single)

/-! ## Settings one by one -/

/-- The settings of fault handling. -/
inductive Setting where
  | name
  | environment
  | debug
  | scope
  | bound (role : Role)
  | faults

namespace Setting

/-- What a setting holds. -/
def Content : Setting → Type
  | .name => String
  | .environment => String
  | .debug => Bool
  | .scope => String
  | .bound _ => Option String
  | .faults => List FaultDefinition

/-- Where a setting stands in a document. -/
def path : Setting → List Value
  | .name => [.string "app", .string "name"]
  | .environment => [.string "app", .string "environment"]
  | .debug => [.string "app", .string "debug"]
  | .scope => [.string "api", .string "prefix"]
  | .bound role => [.string "exceptions", .string role.key]
  | .faults => [.string "errors"]

def reader : (s : Setting) → Reader s.Content
  | .name => text
  | .environment => text
  | .debug => flag
  | .scope => text
  | .bound _ => optional text
  | .faults => list .direct (FaultDefinition.read .direct)

/-- What a setting is where nothing is said of it. Only the name must be there. -/
def default? : (s : Setting) → Option s.Content
  | .name => none
  | .environment => some App.defaultEnvironment
  | .debug => some false
  | .scope => some Resolver.defaultScope
  | .bound _ => some none
  | .faults => some []

/-- What a setting comes to with the value that counts for it. -/
def decode (s : Setting) : Option Value → Option s.Content :=
  decoded s.reader s.default?

def all : List Setting :=
  [.name, .environment, .debug, .scope, .bound .maintenance, .bound .serverInternalError,
    .faults]

theorem mem_all (s : Setting) : s ∈ all := by
  cases s with
  | bound role => cases role <;> simp [all]
  | name | environment | debug | scope | faults => simp [all]

theorem forall_iff {P : Setting → Prop} :
    (∀ s, P s) ↔ (P .name ∧ P .environment ∧ P .debug) ∧ P .scope ∧
      (∀ role, P (.bound role)) ∧ P .faults := by
  constructor
  · intro h
    exact ⟨⟨h .name, h .environment, h .debug⟩, h .scope, fun role => h (.bound role),
      h .faults⟩
  · rintro ⟨⟨hname, henvironment, hdebug⟩, hscope, hbound, hfaults⟩ s
    cases s with
    | name => exact hname
    | environment => exact henvironment
    | debug => exact hdebug
    | scope => exact hscope
    | bound role => exact hbound role
    | faults => exact hfaults

/-- No setting is a mapping. -/
theorem reader_mapping (s : Setting) (entries : List (Value × Value)) :
    (s.reader (.mapping entries)).toOption = none := by
  cases s <;> rfl

/-- Where a value is laid over another, only the upper one counts. -/
theorem decode_laid (s : Setting) (old : Option Value) (v : Value) :
    s.decode (some (Value.laid old v)) = s.decode (some v) := by
  cases hm : v.isMapping with
  | false => rw [Value.laid_of_not_mapping hm]
  | true =>
      obtain ⟨entries, rfl⟩ := Value.exists_mapping hm
      have hlaid : ∃ merged, Value.laid old (.mapping entries) = .mapping merged := by
        cases old with
        | none => exact ⟨entries, rfl⟩
        | some old =>
            cases ho : old.isMapping with
            | false => exact ⟨entries, Value.merge_of_base_not_mapping ho _⟩
            | true =>
                obtain ⟨own, rfl⟩ := Value.exists_mapping ho
                exact ⟨_, Value.merge_mapping own entries⟩
      obtain ⟨merged, hmerged⟩ := hlaid
      rw [hmerged]
      exact (s.reader_mapping merged).trans (s.reader_mapping entries).symm

end Setting

/-- The value of a setting. -/
def Handler.get (h : Handler) : (s : Setting) → s.Content
  | .name => h.app.name
  | .environment => h.app.environment
  | .debug => h.app.debug
  | .scope => h.scope
  | .bound role => h.bindings.get? role
  | .faults => h.faults

/-- Settings that are given one by one. -/
def Handler.ofSettings (given : (s : Setting) → s.Content) : Handler where
  app := ⟨given .name, given .environment, given .debug⟩
  scope := given .scope
  bindings := ⟨given (.bound .maintenance), given (.bound .serverInternalError)⟩
  faults := given .faults

/-- There are no others. -/
theorem Handler.get_ofSettings (given : (s : Setting) → s.Content) (s : Setting) :
    (ofSettings given).get s = given s := by
  cases s with
  | bound role => cases role <;> rfl
  | name | environment | debug | scope | faults => rfl

/-! ## Documents of sections -/

def IsSection : Value → Prop
  | .mapping entries => PlainKeys entries
  | _ => False

instance : (v : Value) → Decidable (IsSection v)
  | .mapping entries => inferInstanceAs (Decidable (PlainKeys entries))
  | .null | .bool _ | .int _ | .real _ | .string _ | .sequence _ | .tagged _ _ =>
      inferInstanceAs (Decidable False)

theorem IsSection.exists_entries {v : Value} (h : IsSection v) :
    ∃ entries, v = .mapping entries ∧ PlainKeys entries := by
  cases v with
  | mapping entries => exact ⟨entries, rfl, h⟩
  | null | bool | int | real | string | sequence | tagged => cases h

def sections : List String := ["app", "api", "exceptions"]

/-- A section whose own sections are sections, where they are there. -/
def Sectioned : Value → Prop
  | .mapping entries =>
    PlainKeys entries ∧
      ∀ name ∈ sections, ∀ v ∈ Value.entry? (.string name) entries, IsSection v
  | _ => False

instance : (v : Value) → Decidable (Sectioned v)
  | .mapping entries =>
    inferInstanceAs (Decidable (PlainKeys entries ∧
      ∀ name ∈ sections, ∀ v ∈ Value.entry? (.string name) entries, IsSection v))
  | .null | .bool _ | .int _ | .real _ | .string _ | .sequence _ | .tagged _ _ =>
      inferInstanceAs (Decidable False)

theorem Sectioned.exists_entries {v : Value} (h : Sectioned v) :
    ∃ entries, v = .mapping entries ∧ PlainKeys entries ∧
      ∀ name ∈ sections, ∀ v ∈ Value.entry? (.string name) entries, IsSection v := by
  cases v with
  | mapping entries => exact ⟨entries, rfl, h⟩
  | null | bool | int | real | string | sequence | tagged => cases h

/-! ## One document -/

section Parts

variable {inner : Option Value} (hs : ∀ v ∈ inner, IsSection v)
  (hd : ∀ v ∈ inner, Distinct v)

include hs hd

theorem decoded_app_iff {app : App} :
    decoded (App.read .direct) none inner = some app ↔
      decoded text none (inner.bind (·.at? [.string "name"])) = some app.name ∧
      decoded text (some App.defaultEnvironment)
        (inner.bind (·.at? [.string "environment"])) = some app.environment ∧
      decoded flag (some false) (inner.bind (·.at? [.string "debug"])) =
        some app.debug := by
  cases inner with
  | none => simp [decoded]
  | some v =>
      obtain ⟨entries, rfl, hp⟩ := (hs v rfl).exists_entries
      rw [decoded, toOption_eq_some_iff, App.read_eq_ok_iff hp (hd _ rfl).unique]
      simp only [Option.bind_some, at?_mapping_single]

theorem decoded_scope_iff {scope : String} :
    decoded (readScope .direct) (some Resolver.defaultScope) inner = some scope ↔
      decoded text (some Resolver.defaultScope)
        (inner.bind (·.at? [.string "prefix"])) = some scope := by
  cases inner with
  | none => simp [decoded]
  | some v =>
      obtain ⟨entries, rfl, hp⟩ := (hs v rfl).exists_entries
      rw [decoded, toOption_eq_some_iff, readScope_eq_ok_iff hp (hd _ rfl).unique]
      simp only [Option.bind_some, at?_mapping_single]

theorem decoded_bindings_iff {bindings : Bindings} :
    decoded (readBindings .direct) (some .none) inner = some bindings ↔
      ∀ role : Role, decoded (optional text) (some none)
        (inner.bind (·.at? [.string role.key])) = some (bindings.get? role) := by
  cases inner with
  | none =>
      constructor
      · intro h role
        injection h with h
        rw [← h, Bindings.get?_none]
        rfl
      · intro h
        have hm := h .maintenance
        have hi := h .serverInternalError
        injection hm with hm
        injection hi with hi
        obtain ⟨maintenance, internal⟩ := bindings
        cases hm
        cases hi
        rfl
  | some v =>
      obtain ⟨entries, rfl, hp⟩ := (hs v rfl).exists_entries
      rw [decoded, toOption_eq_some_iff, readBindings_eq_ok_iff hp (hd _ rfl).unique]
      simp only [Option.bind_some, at?_mapping_single]

end Parts

/-- A document is read if what is at the path of each setting is. -/
theorem Handler.read_eq_ok_iff_settings {doc : Value} (hd : doc.Distinct)
    (hs : Sectioned doc) {h : Handler} :
    Handler.read doc = .ok h ↔ ∀ s : Setting, s.decode (doc.at? s.path) = some (h.get s) := by
  obtain ⟨entries, rfl, hp, hparts⟩ := hs.exists_entries
  have hdistinct : ∀ name, ∀ v ∈ Value.entry? (.string name) entries, Distinct v :=
    fun name v hv => hd.of_entry hv
  rw [Handler.read_eq_ok_iff hp hd.unique,
    decoded_app_iff (hparts "app" (by decide)) (hdistinct "app"),
    decoded_scope_iff (hparts "api" (by decide)) (hdistinct "api"),
    decoded_bindings_iff (hparts "exceptions" (by decide)) (hdistinct "exceptions"),
    Setting.forall_iff]
  simp only [Setting.path, at?_mapping_single, ← at?_mapping_cons]
  rfl

/-! ## Two documents -/

theorem PlainKeys.mergeEntries {entries overlay : List (Value × Value)}
    (he : PlainKeys entries) (ho : PlainKeys overlay)
    (hu : Unrepeated (overlay.map Prod.fst)) :
    PlainKeys (Value.mergeEntries entries overlay) := by
  intro e hmem
  have hkey : e.1 ∈ (Value.mergeEntries entries overlay).map Prod.fst :=
    List.mem_map_of_mem hmem
  rw [Value.keys_mergeEntries hu, List.mem_append] at hkey
  rcases hkey with hkey | hkey
  · obtain ⟨f, hf, heq⟩ := List.mem_map.mp hkey
    exact heq ▸ he f hf
  · obtain ⟨f, hf, heq⟩ := List.mem_map.mp hkey
    exact heq ▸ ho f (List.mem_filter.mp hf).1

theorem IsSection.laid {old : Option Value} {v : Value} (hold : ∀ w ∈ old, IsSection w)
    (hv : IsSection v) (hd : v.Distinct) : IsSection (Value.laid old v) := by
  cases old with
  | none => exact hv
  | some w =>
      obtain ⟨own, rfl, hown⟩ := (hold w rfl).exists_entries
      obtain ⟨entries, rfl, hp⟩ := hv.exists_entries
      show IsSection (Value.merge (.mapping own) (.mapping entries))
      rw [Value.merge_mapping]
      exact PlainKeys.mergeEntries hown hp hd.unique

theorem Sectioned.merge {b o : Value} (hb : Sectioned b) (ho : Sectioned o)
    (hd : o.Distinct) : Sectioned (b.merge o) := by
  obtain ⟨own, rfl, hown, hownParts⟩ := hb.exists_entries
  obtain ⟨entries, rfl, hp, hparts⟩ := ho.exists_entries
  rw [Value.merge_mapping]
  refine ⟨hown.mergeEntries hp hd.unique, fun name hn v hv => ?_⟩
  rw [Value.entry?_mergeEntries hd.unique] at hv
  cases he : Value.entry? (.string name) entries with
  | none =>
      rw [he] at hv
      exact hownParts name hn v hv
  | some w =>
      rw [he] at hv
      injection hv with hv
      exact hv ▸ IsSection.laid (hownParts name hn) (hparts name hn w he) (hd.of_entry he)

/-- Nothing stands in the way to a setting. -/
theorem Sectioned.walk_ne_blocked {v : Value} (h : Sectioned v) (s : Setting) :
    v.walk s.path ≠ .blocked := by
  obtain ⟨entries, rfl, _, hparts⟩ := h.exists_entries
  have hpart : ∀ name ∈ sections, ∀ key,
      (Value.mapping entries).walk [.string name, key] ≠ .blocked := by
    intro name hn key
    rw [Value.walk]
    cases he : Value.entry? (.string name) entries with
    | none => simp
    | some inner =>
        obtain ⟨own, rfl, _⟩ := (hparts name hn inner he).exists_entries
        show (Value.mapping own).walk [key] ≠ .blocked
        rw [Value.walk]
        cases Value.entry? key own <;> simp [Value.walk]
  cases s with
  | name | environment | debug => exact hpart "app" (by decide) _
  | scope => exact hpart "api" (by decide) _
  | bound role => exact hpart "exceptions" (by decide) _
  | faults =>
      rw [Setting.path, Value.walk]
      cases Value.entry? (.string "errors") entries <;> simp [Value.walk]

/-- The value that counts for a setting: the overlay's, if it has one, or else the
base's. A null is a value. -/
def effective (base : Value) (overlay : Option Value) (s : Setting) : Option Value :=
  (overlay.bind (·.at? s.path)).or (base.at? s.path)

theorem Setting.decode_merge (s : Setting) (b : Value) {o : Value} (ho : o.Distinct)
    (hs : Sectioned o) :
    s.decode ((b.merge o).at? s.path) = s.decode (effective b (some o) s) := by
  rw [Value.at?_merge ho, effective, Option.bind_some, Value.at?_eq_walk o]
  cases hw : o.walk s.path with
  | found v => exact s.decode_laid (b.at? s.path) v
  | lacking => rfl
  | blocked => exact absurd hw (hs.walk_ne_blocked s)

/-! ## Two files -/

theorem File.value_distinct {file : File} {v : Value} (h : file.value = .ok v) :
    v.Distinct := by
  rw [File.value] at h
  split at h
  · cases h
  · split at h
    · cases h
    · rename_i hv
      injection h with h
      exact h ▸ Yaml.Value.ofText_distinct hv

theorem load_eq_ok_iff {α : Type} {read : Reader α} {base : File} {overlay : Option File}
    {doc : Value} (h : layered base overlay = .ok doc) {x : α} :
    load read base overlay = .ok x ↔ read doc = .ok x := by
  rw [load_of_layered h]
  cases read doc with
  | error e => exact ⟨fun h => (nomatch h), fun h => (nomatch h)⟩
  | ok y => exact ⟨fun h => by cases h; rfl, fun h => by cases h; rfl⟩

theorem Handler.load_eq_ok_iff_settings {base : File} {overlay : Option File} {b : Value}
    {o : Option Value} (hb : base.value = .ok b) (ho : overlay.mapM File.value = .ok o)
    (hbs : Sectioned b) (hos : ∀ v ∈ o, Sectioned v) {h : Handler} :
    load Handler.read base overlay = .ok h ↔
      ∀ s : Setting, s.decode (effective b o s) = some (h.get s) := by
  have hbd := File.value_distinct hb
  cases overlay with
  | none =>
      injection ho with ho
      subst ho
      have hlayered : layered base none = .ok b := by
        rw [layered, hb]
        rfl
      exact (load_eq_ok_iff hlayered).trans (Handler.read_eq_ok_iff_settings hbd hbs)
  | some file =>
      obtain ⟨v, hv, rfl⟩ : ∃ v, file.value = .ok v ∧ some v = o := by
        rw [Option.mapM_some] at ho
        cases hv : file.value with
        | error e => rw [hv] at ho; cases ho
        | ok v => rw [hv] at ho; exact ⟨v, rfl, Except.ok.inj ho⟩
      have hlayered : layered base (some file) = .ok (b.merge v) := by
        rw [layered, hb, ok_bind]
        show (file.value >>= fun w => pure (b.merge w)) = _
        rw [hv]
        rfl
      have hvd := File.value_distinct hv
      have hvs := hos v rfl
      rw [load_eq_ok_iff hlayered, Handler.read_eq_ok_iff_settings
        (Value.merge_distinct hbd hvd) (hbs.merge hvs hvd)]
      exact forall_congr' fun s => by rw [s.decode_merge b hvd hvs]

/-- What is read from a base and an overlay is decided by the values that count for
the settings. There is one of them for each setting that has to be read and one value
of the result for each that was, and another pair of files in which the same values
count gives the same. So declared faults come from one file only, and a null in the
overlay unbinds a role. -/
theorem Handler.load_by_effective_values {base : File} {overlay : Option File} {b : Value}
    {o : Option Value} (hb : base.value = .ok b) (ho : overlay.mapM File.value = .ok o)
    (hbs : Sectioned b) (hos : ∀ v ∈ o, Sectioned v) :
    ((∃ h, load Handler.read base overlay = .ok h) ↔
      ∀ s : Setting, ∃ x, s.decode (effective b o s) = some x) ∧
    (∀ h, load Handler.read base overlay = .ok h →
      ∀ s : Setting, s.decode (effective b o s) = some (h.get s)) ∧
    (∀ (base' : File) (overlay' : Option File) (b' : Value) (o' : Option Value),
      base'.value = .ok b' → overlay'.mapM File.value = .ok o' → Sectioned b' →
      (∀ v ∈ o', Sectioned v) → (∀ s, effective b' o' s = effective b o s) →
      ∀ h, load Handler.read base' overlay' = .ok h ↔
        load Handler.read base overlay = .ok h) ∧
    (∀ h v, load Handler.read base overlay = .ok h → o = some v →
      (∀ w, v.at? Setting.faults.path = some w →
        list .direct (FaultDefinition.read .direct) w = .ok h.faults) ∧
      ∀ role, v.at? (Setting.bound role).path = some .null →
        h.bindings.get? role = none) := by
  have hload : ∀ {h}, load Handler.read base overlay = .ok h ↔
      ∀ s : Setting, s.decode (effective b o s) = some (h.get s) :=
    Handler.load_eq_ok_iff_settings hb ho hbs hos
  refine ⟨⟨?_, ?_⟩, fun h => hload.mp, ?_, ?_⟩
  · rintro ⟨h, hh⟩ s
    exact ⟨h.get s, hload.mp hh s⟩
  · intro hall
    refine ⟨ofSettings fun s => (hall s).choose, hload.mpr fun s => ?_⟩
    rw [get_ofSettings]
    exact (hall s).choose_spec
  · intro base' overlay' b' o' hb' ho' hbs' hos' hsame h
    rw [hload, Handler.load_eq_ok_iff_settings hb' ho' hbs' hos']
    simp only [hsame]
  · rintro h v hh rfl
    refine ⟨fun w hw => ?_, fun role hnull => ?_⟩
    · have hfaults := hload.mp hh .faults
      rw [effective, Option.bind_some, hw] at hfaults
      exact toOption_eq_some_iff.mp hfaults
    · have hbound := hload.mp hh (.bound role)
      rw [effective, Option.bind_some, hnull] at hbound
      exact (Option.some.inj hbound).symm

/-- Both texts are read, and their values are as they should be. -/
def bothRead (s t : String) (wanted : Value → Value → Bool) : Bool :=
  match Yaml.Value.ofText s, Yaml.Value.ofText t with
  | .ok b, .ok o => wanted b o
  | _, _ => false

theorem exists_of_bothRead {s t : String} {wanted : Value → Value → Bool}
    (h : bothRead s t wanted = true) :
    ∃ b o, File.value (some (Text.utf8 s)) = .ok b ∧
      File.value (some (Text.utf8 t)) = .ok o ∧ wanted b o = true := by
  have hfile : ∀ {s : String} {v : Value}, Yaml.Value.ofText s = .ok v →
      File.value (some (Text.utf8 s)) = .ok v := by
    intro s v hv
    simp only [File.value, File.text, Text.decode?_utf8, hv]
  rw [bothRead] at h
  split at h
  · rename_i b o hb ho
    exact ⟨b, o, hfile hb, hfile ho, h⟩
  · cases h

/-- A base whose name is a number, and which binds a role. -/
def spoilt : String :=
  "app:\n name: 7\nexceptions:\n maintain-mode: G"

/-- An overlay that gives a name, and unbinds the role with a null. -/
def mending : String :=
  "app:\n name: x\nexceptions:\n maintain-mode:"

/-- What the second document has to do for that. -/
def mends (b o : Value) : Bool :=
  decide (Sectioned b) && decide (Sectioned o) &&
    Setting.all.all (fun s => (s.decode (effective b (some o) s)).isSome) &&
    decide (decoded text none (effective b (some o) .name) = some "x") &&
    decide (decoded (optional text) (some none)
      (effective b (some o) (.bound .maintenance)) = some none)

theorem mends_mending : bothRead spoilt mending mends = true := by
  decide +kernel

theorem load_by_effective_values_mending :
    ∃ h, load Handler.read (some (Text.utf8 spoilt)) (some (some (Text.utf8 mending))) =
        .ok h ∧ h.app.name = "x" ∧ h.bindings.get? .maintenance = none := by
  obtain ⟨b, o, hb, ho, hmends⟩ := exists_of_bothRead mends_mending
  simp only [mends, Bool.and_eq_true, decide_eq_true_eq, List.all_eq_true] at hmends
  obtain ⟨⟨⟨⟨hbs, hos⟩, hall⟩, hname⟩, hbound⟩ := hmends
  have hoverlay : (some (some (Text.utf8 mending) : File)).mapM File.value = .ok (some o) := by
    rw [Option.mapM_some, ho]
    rfl
  obtain ⟨hiff, hvalues, _⟩ := Handler.load_by_effective_values hb hoverlay hbs
    fun v hv => Option.some.inj hv ▸ hos
  obtain ⟨h, hh⟩ := hiff.mpr fun s => Option.isSome_iff_exists.mp (hall s s.mem_all)
  exact ⟨h, hh, Option.some.inj ((hvalues h hh .name).symm.trans hname),
    Option.some.inj ((hvalues h hh (.bound .maintenance)).symm.trans hbound)⟩

end FaultGate.Settings
