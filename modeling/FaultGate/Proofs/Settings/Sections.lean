import FaultGate.Proofs.Yaml.Documents
import FaultGate.Settings.Handler

/-!
# Sections whose keys are plain strings

A section is read in two rounds: its entries are checked in the order of the document,
and then its fields are looked up in an order of their own. The first round is there
for the sake of the error that is told. Whether there is one at all is decided by the
second, as long as every key is a string and none comes twice: what the check finds
wrong is a field that will not be read, and anything else in the section is passed
over. So a section with such keys is read if and only if its fields are, and each of
them is known by what is found under its name.

`decoded` says what a field comes to, and the four readers of the settings of fault
handling are each put down to it.
-/

namespace FaultGate.Settings

open FaultGate.Yaml (Value)
open FaultGate.Yaml.Value (Unrepeated Distinct)

def isString : Value → Bool
  | .string _ => true
  | _ => false

/-- All keys are strings, and not only strings with a tag. -/
def PlainKeys (entries : List (Value × Value)) : Prop :=
  ∀ e ∈ entries, isString e.1 = true

instance (entries : List (Value × Value)) : Decidable (PlainKeys entries) :=
  inferInstanceAs (Decidable (∀ e ∈ entries, isString e.1 = true))

theorem eq_string_of_isString {key : Value} (h : isString key = true) :
    ∃ name, key = .string name := by
  cases key with
  | string name => exact ⟨name, rfl⟩
  | null | bool | int | real | sequence | mapping | tagged => cases h

/-- What a field comes to: without a value its default, if it has one, and otherwise
what the value is read as. -/
def decoded {α : Type} (read : Reader α) (default : Option α) : Option Value → Option α
  | none => default
  | some v => (read v).toOption

theorem toOption_eq_some_iff {ε α : Type} {x : Except ε α} {a : α} :
    x.toOption = some a ↔ x = .ok a := by
  cases x with
  | error e => exact ⟨fun h => (nomatch h), fun h => (nomatch h)⟩
  | ok b => simp [Except.toOption]

namespace Section

section Fields

variable {α : Type} {s : Section} {name : String} {read : Reader α} {x : α}

theorem required_eq_ok_iff :
    s.required name read = .ok x ↔ decoded read none (lookup name s.entries) = some x := by
  rw [required]
  cases lookup name s.entries with
  | none => exact ⟨fun h => (nomatch h), fun h => (nomatch h)⟩
  | some v => exact toOption_eq_some_iff.symm

theorem withDefault_eq_ok_iff {default : α} :
    s.withDefault name read default = .ok x ↔
      decoded read (some default) (lookup name s.entries) = some x := by
  rw [withDefault]
  cases lookup name s.entries with
  | none => simp [decoded]
  | some v => exact toOption_eq_some_iff.symm

end Fields

/-! ## The check -/

section Entries

variable {mode : Mode} {fields : List String} {entries : List (Value × Value)}

theorem key_string (name : String) : key mode fields (.string name) = .named name := by
  cases mode <;> rfl

theorem lookup_ofEntries (hp : PlainKeys entries) (name : String) :
    lookup name (ofEntries mode fields entries).entries =
      Value.entry? (.string name) entries := by
  induction entries with
  | nil => rfl
  | cons e rest ih =>
      obtain ⟨he, hrest⟩ := List.forall_mem_cons.mp hp
      obtain ⟨key, v⟩ := e
      obtain ⟨own, rfl⟩ := eq_string_of_isString he
      show lookup name ((Section.key mode fields (.string own), v) ::
        (ofEntries mode fields rest).entries) = _
      rw [key_string, lookup, Value.entry?, ih hrest]
      simp [Value.same]

theorem rule_of_find? {rules : List Rule} {name : String} {rule : Rule}
    (h : rules.find? (·.name = name) = some rule) : rule ∈ rules ∧ rule.name = name :=
  ⟨List.mem_of_find?_eq_some h, by simpa using List.find?_some h⟩

theorem firstError_eq_none {rules : List Rule} (hp : PlainKeys entries)
    (hu : Unrepeated (entries.map Prod.fst))
    (h : ∀ rule ∈ rules, ∀ e ∈ entries, e.1 = .string rule.name → rule.error? e.2 = none) :
    ∀ seen : List String, (∀ name ∈ seen, ∀ e ∈ entries, e.1 ≠ .string name) →
      firstError rules (fun _ => none) seen (ofEntries mode fields entries).entries =
        none := by
  induction entries with
  | nil => exact fun _ _ => rfl
  | cons e rest ih =>
      intro seen hseen
      obtain ⟨he, hrest⟩ := List.forall_mem_cons.mp hp
      obtain ⟨key, v⟩ := e
      obtain ⟨own, rfl⟩ := eq_string_of_isString he
      rw [List.map_cons, Unrepeated, List.pairwise_cons] at hu
      have hih := ih hrest hu.2 fun rule hr f hf => h rule hr f (List.mem_cons_of_mem _ hf)
      have hseen' : ∀ name ∈ seen, ∀ f ∈ rest, f.1 ≠ .string name :=
        fun name hn f hf => hseen name hn f (List.mem_cons_of_mem _ hf)
      show firstError rules (fun _ => none) seen ((Section.key mode fields (.string own), v) ::
        (ofEntries mode fields rest).entries) = _
      rw [key_string, firstError]
      split
      · exact hih seen hseen'
      · rename_i rule hfind
        obtain ⟨hr, hname⟩ := rule_of_find? hfind
        have hnew : seen.contains own = false := by
          rw [List.contains_eq_mem, decide_eq_false_iff_not]
          intro hn
          exact hseen own hn _ (List.mem_cons_self ..) rfl
        rw [hnew, if_neg (by decide), h rule hr _ (List.mem_cons_self ..) (by rw [hname])]
        refine hih (own :: seen) (List.forall_mem_cons.mpr ⟨fun f hf heq => ?_, hseen'⟩)
        -- the name does not come again
        have hne := hu.1 f.1 (List.mem_map_of_mem hf)
        rw [heq, Value.same_refl] at hne
        cases hne

/-- Nothing is wrong with a section if nothing is wrong with its fields. -/
theorem check_eq_ok {rules : List Rule} (hp : PlainKeys entries)
    (hu : Unrepeated (entries.map Prod.fst))
    (h : ∀ rule ∈ rules, ∀ v, Value.entry? (.string rule.name) entries = some v →
      rule.error? v = none) :
    (ofEntries mode fields entries).check rules = .ok () := by
  have hnone : firstError rules (fun _ => none) []
      (ofEntries mode fields entries).entries = none := by
    refine firstError_eq_none hp hu (fun rule hr e he hkey => ?_) [] fun _ hn => by cases hn
    exact h rule hr e.2 (Value.entry?_of_mem hu he (by rw [hkey, Value.same_refl]))
  rw [check, checkWith, hnone]
  rfl

/-- A field that comes to something has passed its check. -/
theorem error?_of_decoded {α : Type} {name : String} {read : Reader α}
    {default : Option α} {x : α}
    (h : decoded read default (Value.entry? (.string name) entries) = some x) :
    ∀ v, Value.entry? (.string name) entries = some v →
      (Rule.readable name read).error? v = none := by
  intro v hv
  rw [hv, decoded, toOption_eq_some_iff] at h
  simp only [Rule.readable, h]

theorem ofValue_mapping (name : String) :
    ofValue mode name fields (.mapping entries) = .ok (ofEntries mode fields entries) :=
  rfl

/-- The check adds nothing to what its fields ask for. -/
theorem check_bind_eq_ok_iff {α : Type} {rules : List Rule} {rest : Except DecodeError α}
    {x : α} {P : Prop} (hp : PlainKeys entries) (hu : Unrepeated (entries.map Prod.fst))
    (hrest : rest = .ok x ↔ P)
    (h : P → ∀ rule ∈ rules, ∀ v, Value.entry? (.string rule.name) entries = some v →
      rule.error? v = none) :
    ((ofEntries mode fields entries).check rules >>= fun _ => rest) = .ok x ↔ P := by
  rw [bind_eq_ok_iff]
  constructor
  · rintro ⟨_, _, hx⟩
    exact hrest.mp hx
  · intro hP
    exact ⟨(), check_eq_ok hp hu (h hP), hrest.mpr hP⟩

end Entries

end Section

/-! ## The readers -/

section Readers

open Section

variable {entries : List (Value × Value)}

theorem ok_bind {ε α β : Type} (a : α) (f : α → Except ε β) :
    (Except.ok a >>= f) = f a := rfl

theorem App.read_eq_ok_iff (hp : PlainKeys entries)
    (hu : Unrepeated (entries.map Prod.fst)) {app : App} :
    App.read .direct (.mapping entries) = .ok app ↔
      decoded text none (Value.entry? (.string "name") entries) = some app.name ∧
      decoded text (some defaultEnvironment)
        (Value.entry? (.string "environment") entries) = some app.environment ∧
      decoded flag (some false) (Value.entry? (.string "debug") entries) =
        some app.debug := by
  rw [App.read]
  simp only [ofValue_mapping, ok_bind]
  refine check_bind_eq_ok_iff hp hu ?_ ?_
  · simp only [bind_eq_ok_iff, required_eq_ok_iff, withDefault_eq_ok_iff,
      lookup_ofEntries hp]
    constructor
    · rintro ⟨name, hname, environment, henvironment, debug, hdebug, h⟩
      cases h
      exact ⟨hname, henvironment, hdebug⟩
    · rintro ⟨hname, henvironment, hdebug⟩
      exact ⟨_, hname, _, henvironment, _, hdebug, rfl⟩
  · rintro ⟨hname, henvironment, hdebug⟩
    simp only [List.forall_mem_cons, List.not_mem_nil, false_imp_iff, implies_true, and_true]
    exact ⟨error?_of_decoded hname, error?_of_decoded henvironment,
      error?_of_decoded hdebug⟩

theorem readScope_eq_ok_iff (hp : PlainKeys entries)
    (hu : Unrepeated (entries.map Prod.fst)) {scope : String} :
    readScope .direct (.mapping entries) = .ok scope ↔
      decoded text (some Resolver.defaultScope)
        (Value.entry? (.string "prefix") entries) = some scope := by
  rw [readScope]
  simp only [ofValue_mapping, ok_bind]
  refine check_bind_eq_ok_iff hp hu ?_ ?_
  · rw [withDefault_eq_ok_iff, lookup_ofEntries hp]
  · intro hscope
    simp only [List.forall_mem_cons, List.not_mem_nil, false_imp_iff, implies_true, and_true]
    exact error?_of_decoded hscope

theorem readBindings_eq_ok_iff (hp : PlainKeys entries)
    (hu : Unrepeated (entries.map Prod.fst)) {bindings : Bindings} :
    readBindings .direct (.mapping entries) = .ok bindings ↔
      ∀ role : Role, decoded (optional text) (some none)
        (Value.entry? (.string role.key) entries) = some (bindings.get? role) := by
  rw [readBindings]
  simp only [ofValue_mapping, ok_bind]
  refine check_bind_eq_ok_iff hp hu ?_ ?_
  · simp only [bind_eq_ok_iff, withDefault_eq_ok_iff, lookup_ofEntries hp]
    constructor
    · rintro ⟨maintenance, hmaintenance, internal, hinternal, h⟩ role
      cases h
      cases role with
      | maintenance => exact hmaintenance
      | serverInternalError => exact hinternal
    · intro h
      exact ⟨_, h .maintenance, _, h .serverInternalError, rfl⟩
  · intro h rule hr
    obtain ⟨role, _, rfl⟩ := List.mem_map.mp hr
    exact error?_of_decoded (h role)

theorem Handler.read_eq_ok_iff (hp : PlainKeys entries)
    (hu : Unrepeated (entries.map Prod.fst)) {h : Handler} :
    Handler.read (.mapping entries) = .ok h ↔
      decoded (App.read .direct) none (Value.entry? (.string "app") entries) =
        some h.app ∧
      decoded (readScope .direct) (some Resolver.defaultScope)
        (Value.entry? (.string "api") entries) = some h.scope ∧
      decoded (readBindings .direct) (some .none)
        (Value.entry? (.string "exceptions") entries) = some h.bindings ∧
      decoded (list .direct (FaultDefinition.read .direct)) (some [])
        (Value.entry? (.string "errors") entries) = some h.faults := by
  rw [Handler.read, ofValue_mapping, ok_bind, ofSection]
  refine check_bind_eq_ok_iff hp hu ?_ ?_
  · simp only [bind_eq_ok_iff, required_eq_ok_iff, withDefault_eq_ok_iff,
      lookup_ofEntries hp]
    constructor
    · rintro ⟨app, happ, scope, hscope, bindings, hbindings, faults, hfaults, heq⟩
      cases heq
      exact ⟨happ, hscope, hbindings, hfaults⟩
    · rintro ⟨happ, hscope, hbindings, hfaults⟩
      exact ⟨_, happ, _, hscope, _, hbindings, _, hfaults, rfl⟩
  · rintro ⟨happ, hscope, hbindings, hfaults⟩
    simp only [List.forall_mem_cons, List.not_mem_nil, false_imp_iff, implies_true, and_true]
    exact ⟨error?_of_decoded happ, error?_of_decoded hscope,
      error?_of_decoded hbindings, error?_of_decoded hfaults⟩

end Readers

end FaultGate.Settings
