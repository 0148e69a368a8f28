import FaultGate.Proofs.Construction
import FaultGate.Proofs.FirstWrong
import Mathlib.Data.List.Nodup
import Mathlib.Tactic.Push

/-!
# A registry is a function of the calls it was built by

Three kinds of calls come in any order, and three rules apply to them: the first
registration of a name counts, the last binding of a role counts, and of several
things that are wrong the first one is told. None of the rules is followed when a call
is made, except that a name which is taken is put on a list. What this comes to in the
end is said here in terms of the calls alone, and the builder does not occur in it.

A builder after some calls holds two things, and each of them is an induction that
takes the last call off. Its factories are found by name as they are found in the list
of all registrations, the built-in ones first; its bindings are the last ones. While no
name has come twice the list of duplicates is empty, and then a kind has the factory
that it was registered with and no other.

The checks at the end come in an order, so what is proved of them is about a role and
those before it. That one of the cases applies, to all calls whatever, is part of the
law: a description with a gap in it would not be one.
-/

namespace FaultGate

/-- The kind and the factory that a call registers. -/
def RegistryCall.registered? : RegistryCall → Option (String × Factory)
  | .register kind factory => some (kind, factory)
  | .declare kind code status => some (kind, .declared kind code status)
  | .bind _ _ => none

/-- The kind that a call binds a role to. -/
def RegistryCall.boundTo? (role : Role) : RegistryCall → Option String
  | .bind own kind => if own = role then some kind else none
  | _ => none

theorem RegistryCall.name?_eq (c : RegistryCall) : c.name? = c.registered?.map Prod.fst := by
  cases c <;> rfl

namespace RegistryBuilder

/-! ## What the calls say -/

section Calls

variable (calls : List RegistryCall)

/-- Everything that is registered, beginning with what is built in. -/
def registrations : List (String × Factory) :=
  builtins ++ calls.filterMap RegistryCall.registered?

def Registers (kind : String) (factory : Factory) : Prop :=
  (kind, factory) ∈ registrations calls

/-- The name is that of a built-in kind, or was registered by one of the calls. -/
def Taken (kind : String) : Prop :=
  kind ∈ (registrations calls).map Prod.fst

/-- No call registers a name that is taken when its turn comes. -/
def NoneRepeated : Prop :=
  ∀ before c after, calls = before ++ c :: after →
    ∀ kind, c.name? = some kind → ¬ Taken before kind

/-- The first call that registers a name which is taken gives this one. -/
def FirstRepeated (kind : String) : Prop :=
  ∃ before c after, calls = before ++ c :: after ∧ c.name? = some kind ∧
    Taken before kind ∧ NoneRepeated before

def lastBound (role : Role) : Option String :=
  (calls.filterMap (RegistryCall.boundTo? role)).getLast?

/-- What can be wrong with a kind that a role is bound to. -/
inductive Refused (kind : String) : Unresolved → Prop
  | notRegistered (none : ∀ factory, ¬ Registers calls kind factory) :
    Refused kind .notRegistered
  | notDomain {factory : Factory} (registered : Registers calls kind factory)
    (other : (factory "").isDomain = false) : Refused kind .notDomain

/-- The role is not bound, or the kind it was last bound to yields a domain fault. -/
def Accepted (role : Role) : Prop :=
  ∀ kind, lastBound calls role = some kind →
    ∃ factory, Registers calls kind factory ∧ (factory "").isDomain = true

/-- After the given roles comes one whose kind is refused, and none before. -/
def FirstRefused (before : List Role) (kind : String) (reason : Unresolved) : Prop :=
  ∃ role after, Role.all = before ++ role :: after ∧ (∀ r ∈ before, Accepted calls r) ∧
    lastBound calls role = some kind ∧ Refused calls kind reason

def boundEvents (roles : List Role) : List Log.Event :=
  roles.filterMap fun role => (lastBound calls role).map (boundEvent role)

end Calls

/-! ## One call more -/

section Snoc

variable {calls : List RegistryCall} {c : RegistryCall} {b : RegistryBuilder}

theorem ofCalls_append (before after : List RegistryCall) :
    ofCalls (before ++ after) = after.foldl call (ofCalls before) :=
  List.foldl_append

theorem ofCalls_snoc (calls : List RegistryCall) (c : RegistryCall) :
    ofCalls (calls ++ [c]) = (ofCalls calls).call c :=
  ofCalls_append calls [c]

theorem filterMap_snoc {α : Type} (f : RegistryCall → Option α) (calls : List RegistryCall)
    (c : RegistryCall) : (calls ++ [c]).filterMap f = calls.filterMap f ++ (f c).toList := by
  rw [List.filterMap_append]
  rfl

theorem registrations_snoc (calls : List RegistryCall) (c : RegistryCall) :
    registrations (calls ++ [c]) = registrations calls ++ c.registered?.toList := by
  rw [registrations, registrations, filterMap_snoc, List.append_assoc]

theorem call_of_registered? {kind : String} {factory : Factory}
    (h : c.registered? = some (kind, factory)) : b.call c = b.register kind factory := by
  cases c with
  | register _ _ => cases h; rfl
  | declare _ _ _ => cases h; rfl
  | bind _ _ => cases h

theorem eq_bind_of_registered? (h : c.registered? = none) :
    ∃ role kind, c = .bind role kind := by
  cases c with
  | register _ _ => cases h
  | declare _ _ _ => cases h
  | bind role kind => exact ⟨role, kind, rfl⟩

theorem call_bindings_get? (role : Role) :
    (b.call c).bindings.get? role = (c.boundTo? role).or (b.bindings.get? role) := by
  have hregister : ∀ kind factory, (b.register kind factory).bindings = b.bindings := by
    intro kind factory
    rw [register]
    split <;> rfl
  cases c with
  | register kind factory => exact congrArg (·.get? role) (hregister kind factory)
  | declare kind code status => exact congrArg (·.get? role) (hregister kind _)
  | bind own kind =>
      show (b.bindings.set own kind).get? role = _
      rw [Bindings.get?_set, RegistryCall.boundTo?]
      by_cases h : role = own
      · rw [if_pos h, if_pos h.symm, Option.some_or]
      · rw [if_neg h, if_neg (Ne.symm h), Option.none_or]

/-- The call comes with a name that is taken. -/
def Repeats (before : List RegistryCall) (c : RegistryCall) : Prop :=
  ∃ kind, c.name? = some kind ∧ Taken before kind

theorem noneRepeated_iff_noneWrong : NoneRepeated calls ↔ NoneWrong Repeats calls := by
  simp only [NoneRepeated, NoneWrong, Repeats, not_exists, not_and]

theorem noneRepeated_nil : NoneRepeated [] :=
  noneRepeated_iff_noneWrong.mpr noneWrong_nil

theorem noneRepeated_snoc :
    NoneRepeated (calls ++ [c]) ↔
      NoneRepeated calls ∧ ∀ kind, c.name? = some kind → ¬ Taken calls kind := by
  rw [noneRepeated_iff_noneWrong, noneWrong_snoc, ← noneRepeated_iff_noneWrong, Repeats]
  simp only [not_exists, not_and]

end Snoc

/-! ## The builder after the calls -/

theorem ofCalls_lookup (calls : List RegistryCall) (kind : String) :
    (ofCalls calls).factories.lookup kind = (registrations calls).lookup kind := by
  induction calls using List.reverseRecOn with
  | nil => rfl
  | append_singleton calls c ih =>
      rw [ofCalls_snoc, registrations_snoc, List.lookup_append, ← ih]
      cases h : c.registered? with
      | none =>
          obtain ⟨_, _, rfl⟩ := eq_bind_of_registered? h
          rw [Option.toList_none, List.lookup_nil, Option.or_none]
          rfl
      | some e =>
          rw [call_of_registered? h, register_lookup, Option.toList_some, List.lookup_cons,
            List.lookup_nil]
          by_cases heq : kind = e.1
          · rw [if_pos heq, beq_iff_eq.mpr heq]
          · rw [if_neg heq, beq_false_of_ne heq]

theorem ofCalls_bindings (calls : List RegistryCall) (role : Role) :
    (ofCalls calls).bindings.get? role = lastBound calls role := by
  induction calls using List.reverseRecOn with
  | nil => exact Bindings.get?_none role
  | append_singleton calls c ih =>
      rw [ofCalls_snoc, call_bindings_get?, ih, lastBound, lastBound, filterMap_snoc,
        List.getLast?_append]
      cases c.boundTo? role <;> rfl

theorem taken_iff {calls : List RegistryCall} {kind : String} :
    Taken calls kind ↔ ((ofCalls calls).factories.lookup kind).isSome = true := by
  rw [ofCalls_lookup, lookup_isSome_iff_mem_names, Taken]

theorem call_duplicates (b : RegistryBuilder) (c : RegistryCall) :
    (b.call c).duplicates =
      b.duplicates ++ c.name?.toList.filter fun kind => (b.factories.lookup kind).isSome := by
  have hregister : ∀ kind factory, (b.register kind factory).duplicates =
      b.duplicates ++ [kind].filter fun own => (b.factories.lookup own).isSome := by
    intro kind factory
    rw [register]
    split
    · rename_i htaken
      rw [List.filter_cons, if_pos htaken, List.filter_nil]
    · rename_i hnew
      rw [List.filter_cons, if_neg hnew, List.filter_nil, List.append_nil]
  cases c with
  | register kind factory => exact hregister kind factory
  | declare kind code status => exact hregister kind _
  | bind own kind => exact (List.append_nil _).symm

/-- A name that was complained of stays the first one. -/
theorem foldl_call_duplicates (calls : List RegistryCall) :
    ∀ b : RegistryBuilder, ∃ more, (calls.foldl call b).duplicates = b.duplicates ++ more := by
  induction calls with
  | nil => exact fun b => ⟨[], (List.append_nil _).symm⟩
  | cons c rest ih =>
      intro b
      obtain ⟨more, h⟩ := ih (b.call c)
      rw [call_duplicates, List.append_assoc] at h
      exact ⟨_, h⟩

theorem ofCalls_duplicates_eq_nil {calls : List RegistryCall} (h : NoneRepeated calls) :
    (ofCalls calls).duplicates = [] := by
  induction calls using List.reverseRecOn with
  | nil => rfl
  | append_singleton calls c ih =>
      obtain ⟨hcalls, hc⟩ := noneRepeated_snoc.mp h
      rw [ofCalls_snoc, call_duplicates, ih hcalls, List.nil_append, List.filter_eq_nil_iff]
      intro kind hk htaken
      exact hc kind (Option.mem_toList.mp hk) (taken_iff.mpr htaken)

theorem ofCalls_duplicates_of_firstRepeated {calls : List RegistryCall} {kind : String}
    (h : FirstRepeated calls kind) : ∃ more, (ofCalls calls).duplicates = kind :: more := by
  obtain ⟨before, c, after, rfl, hname, htaken, hbefore⟩ := h
  obtain ⟨more, h⟩ := foldl_call_duplicates after ((ofCalls before).call c)
  rw [ofCalls_append, List.foldl_cons, h, call_duplicates, hname, Option.toList_some,
    List.filter_cons, if_pos (taken_iff.mp htaken), List.filter_nil,
    ofCalls_duplicates_eq_nil hbefore]
  exact ⟨more, rfl⟩

theorem firstRepeated_or_noneRepeated (calls : List RegistryCall) :
    (∃ kind, FirstRepeated calls kind) ∨ NoneRepeated calls := by
  rcases firstWrong_or_noneWrong Repeats calls with
    ⟨before, c, ⟨after, hsplit⟩, ⟨kind, hname, htaken⟩, hbefore⟩ | hnone
  · exact .inl ⟨kind, before, c, after, hsplit, hname, htaken,
      noneRepeated_iff_noneWrong.mpr hbefore⟩
  · exact .inr (noneRepeated_iff_noneWrong.mpr hnone)

/-! ## Kinds that were registered once -/

theorem registrations_nodup {calls : List RegistryCall} (h : NoneRepeated calls) :
    ((registrations calls).map Prod.fst).Nodup := by
  induction calls using List.reverseRecOn with
  | nil => decide
  | append_singleton calls c ih =>
      obtain ⟨hcalls, hc⟩ := noneRepeated_snoc.mp h
      rw [registrations_snoc, List.map_append, ← Option.toList_map, ← RegistryCall.name?_eq]
      refine List.nodup_append.mpr ⟨ih hcalls, Option.toList_nodup _, ?_⟩
      rintro kind htaken _ hk rfl
      exact hc kind (Option.mem_toList.mp hk) htaken

theorem lookup_eq_some_iff_registers {calls : List RegistryCall} (h : NoneRepeated calls)
    {kind : String} {factory : Factory} :
    (ofCalls calls).factories.lookup kind = some factory ↔ Registers calls kind factory := by
  rw [ofCalls_lookup, List.lookup_eq_some_iff, Registers]
  constructor
  · rintro ⟨before, after, heq, -⟩
    rw [heq]
    exact List.mem_append_right _ List.mem_cons_self
  · intro hm
    obtain ⟨before, after, heq⟩ := List.append_of_mem hm
    refine ⟨before, after, heq, fun e he => bne_iff_ne.mpr fun hkey => ?_⟩
    have hnodup := registrations_nodup h
    rw [heq, List.map_append, List.nodup_append] at hnodup
    exact hnodup.2.2 e.1 (List.mem_map_of_mem he) kind List.mem_cons_self hkey.symm

/-! ## The check of the roles -/

section Checks

variable {calls : List RegistryCall} {kind : String} {reason : Unresolved}

theorem checkBinding_of_refused (h : NoneRepeated calls) (hr : Refused calls kind reason) :
    (ofCalls calls).checkBinding kind = .error (.unresolvable kind reason) := by
  rw [checkBinding]
  cases hr with
  | notRegistered hnone =>
      cases hk : (ofCalls calls).factories.lookup kind with
      | none => rfl
      | some factory => exact absurd ((lookup_eq_some_iff_registers h).mp hk) (hnone factory)
  | notDomain hregistered hother =>
      rw [(lookup_eq_some_iff_registers h).mpr hregistered]
      exact if_neg (by rw [hother]; exact Bool.false_ne_true)

theorem checkBinding_of_registers (h : NoneRepeated calls) {factory : Factory}
    (hregistered : Registers calls kind factory) (hdomain : (factory "").isDomain = true) :
    (ofCalls calls).checkBinding kind = .ok () :=
  checkBinding_of_domain ((lookup_eq_some_iff_registers h).mpr hregistered) hdomain

theorem checkRoles_of_accepted (h : NoneRepeated calls) {before : List Role}
    (ha : ∀ role ∈ before, Accepted calls role) (rest : List Role) :
    (ofCalls calls).checkRoles (before ++ rest) = (((ofCalls calls).checkRoles rest).1,
      boundEvents calls before ++ ((ofCalls calls).checkRoles rest).2) := by
  simp only [boundEvents, ← ofCalls_bindings]
  refine checkRoles_append rest fun role hm kind hk => ?_
  rw [ofCalls_bindings] at hk
  obtain ⟨factory, hregistered, hdomain⟩ := ha role hm kind hk
  exact checkBinding_of_registers h hregistered hdomain

theorem accepted_or_refused (calls : List RegistryCall) (role : Role) :
    Accepted calls role ∨
      ∃ kind reason, lastBound calls role = some kind ∧ Refused calls kind reason := by
  by_cases h : Accepted calls role
  · exact .inl h
  · right
    rw [Accepted] at h
    push Not at h
    obtain ⟨kind, hk, hother⟩ := h
    by_cases hnone : ∃ factory, Registers calls kind factory
    · obtain ⟨factory, hregistered⟩ := hnone
      have hdomain := Bool.eq_false_iff.mpr (hother factory hregistered)
      exact ⟨kind, _, hk, .notDomain hregistered hdomain⟩
    · exact ⟨kind, _, hk, .notRegistered (not_exists.mp hnone)⟩

theorem firstRefused_or_accepted (calls : List RegistryCall) :
    (∃ before kind reason, FirstRefused calls before kind reason) ∨
      ∀ role, Accepted calls role := by
  rcases firstWrong_or_noneWrong (fun _ role => ¬ Accepted calls role) Role.all with
    ⟨before, role, ⟨after, hsplit⟩, hwrong, hbefore⟩ | hnone
  · obtain ⟨kind, reason, hk, hr⟩ := (accepted_or_refused calls role).resolve_left hwrong
    refine .inl ⟨before, kind, reason, role, after, hsplit, fun other hm => ?_, hk, hr⟩
    exact not_not.mp (noneWrong_iff_forall.mp hbefore other hm)
  · exact .inr fun role => not_not.mp (noneWrong_iff_forall.mp hnone role role.mem_all)

end Checks

/-! ## Bindings among registrations -/

/-- The two histories register the same in the same order, and bind each role to the
same in the same order. How bindings come between registrations is left open. -/
def Interleaves (calls other : List RegistryCall) : Prop :=
  calls.filterMap RegistryCall.registered? = other.filterMap RegistryCall.registered? ∧
    ∀ role, calls.filterMap (RegistryCall.boundTo? role) =
      other.filterMap (RegistryCall.boundTo? role)

def registerAll (entries : List (String × Factory)) : RegistryBuilder :=
  entries.foldl (fun b e => b.register e.1 e.2) .empty

theorem register_with_bindings (b : RegistryBuilder) (bindings : Bindings) (kind : String)
    (factory : Factory) :
    { b with bindings := bindings }.register kind factory =
      { b.register kind factory with bindings := bindings } := by
  rw [register, register]
  split <;> rfl

theorem ofCalls_eq_registerAll (calls : List RegistryCall) :
    ofCalls calls = { registerAll (calls.filterMap RegistryCall.registered?) with
      bindings := (ofCalls calls).bindings } := by
  induction calls using List.reverseRecOn with
  | nil => rfl
  | append_singleton calls c ih =>
      rw [ofCalls_snoc, filterMap_snoc]
      cases h : c.registered? with
      | none =>
          obtain ⟨role, kind, rfl⟩ := eq_bind_of_registered? h
          rw [Option.toList_none, List.append_nil, ih]
          rfl
      | some e =>
          rw [call_of_registered? h, registerAll, Option.toList_some, List.foldl_append, ih,
            register_with_bindings]
          rfl

theorem ofCalls_eq_of_interleaves {calls other : List RegistryCall}
    (h : Interleaves calls other) : ofCalls calls = ofCalls other := by
  have hbindings : ∀ role, (ofCalls calls).bindings.get? role =
      (ofCalls other).bindings.get? role := by
    intro role
    rw [ofCalls_bindings, ofCalls_bindings, lastBound, h.2 role, lastBound]
  have hall : (ofCalls calls).bindings = (ofCalls other).bindings :=
    congrArg₂ Bindings.mk (hbindings .maintenance) (hbindings .serverInternalError)
  rw [ofCalls_eq_registerAll calls, ofCalls_eq_registerAll other, h.1, hall]

/-! ## What is built -/

/-- The registry has what was registered and nothing else, and a role stands for what
it was bound to last. -/
structure Recorded (calls : List RegistryCall) (reg : Registry) : Prop where
  factories : ∀ kind factory,
    reg.factory? kind = some factory ↔ Registers calls kind factory
  roles : ∀ role default, reg.resolve role default = (lastBound calls role).getD default

section Build

variable {calls : List RegistryCall}

theorem build_of_firstRepeated {kind : String} (h : FirstRepeated calls kind) :
    (ofCalls calls).build = (.error (.duplicate kind), []) := by
  obtain ⟨more, hdup⟩ := ofCalls_duplicates_of_firstRepeated h
  rw [build, hdup]

theorem build_of_firstRefused (h : NoneRepeated calls) {before : List Role} {kind : String}
    {reason : Unresolved} (hr : FirstRefused calls before kind reason) :
    (ofCalls calls).build =
      (.error (.unresolvable kind reason), boundEvents calls before) := by
  obtain ⟨role, after, hall, hbefore, hk, hr⟩ := hr
  have hchecks : (ofCalls calls).checkRoles (role :: after) =
      (.error (.unresolvable kind reason), []) := by
    rw [checkRoles, ofCalls_bindings, hk]
    simp only [checkBinding_of_refused h hr]
  rw [build, ofCalls_duplicates_eq_nil h, hall, checkRoles_of_accepted h hbefore, hchecks,
    List.append_nil]

theorem build_of_accepted (h : NoneRepeated calls) (ha : ∀ role, Accepted calls role) :
    ∃ reg, (ofCalls calls).build = (.ok reg, boundEvents calls Role.all) ∧
      Recorded calls reg := by
  have hchecks := checkRoles_of_accepted h (fun role (_ : role ∈ Role.all) => ha role) []
  rw [List.append_nil, checkRoles, List.append_nil] at hchecks
  refine ⟨_, build_of_checkRoles (ofCalls_duplicates_eq_nil h) hchecks, ?_, ?_⟩
  · exact fun kind factory => lookup_eq_some_iff_registers h
  · intro role default
    rw [Registry.resolve, ofCalls_bindings]

end Build

/-- What is built, and what is told on the way, in terms of the calls. A name that is
registered twice is complained of before anything else, then the first role that
is bound to a kind it cannot stand for. One of these applies or there is a registry. -/
theorem build_told_by_calls (calls : List RegistryCall) :
    (∀ kind, FirstRepeated calls kind →
      (ofCalls calls).build = (.error (.duplicate kind), [])) ∧
    (NoneRepeated calls → ∀ before kind reason, FirstRefused calls before kind reason →
      (ofCalls calls).build =
        (.error (.unresolvable kind reason), boundEvents calls before)) ∧
    (NoneRepeated calls → (∀ role, Accepted calls role) →
      ∃ reg, (ofCalls calls).build = (.ok reg, boundEvents calls Role.all) ∧
        Recorded calls reg) ∧
    ((∃ kind, FirstRepeated calls kind) ∨
      NoneRepeated calls ∧ ((∃ before kind reason, FirstRefused calls before kind reason) ∨
        ∀ role, Accepted calls role)) ∧
    ∀ other, Interleaves calls other → (ofCalls other).build = (ofCalls calls).build := by
  refine ⟨?_, ?_, ?_, ?_, ?_⟩
  · intro kind h
    exact build_of_firstRepeated h
  · intro h before kind reason hr
    exact build_of_firstRefused h hr
  · intro h ha
    exact build_of_accepted h ha
  · exact (firstRepeated_or_noneRepeated calls).imp_right
      fun h => ⟨h, firstRefused_or_accepted calls⟩
  · intro other h
    rw [ofCalls_eq_of_interleaves h]

/-- A role is bound to a kind that nobody registers, then to one that is registered
in between. -/
def rebound : List RegistryCall :=
  [.bind .maintenance "Absent", .declare "Gone" .maintainMode .serviceUnavailable,
    .bind .maintenance "Gone"]

theorem noneRepeated_rebound : NoneRepeated rebound := by
  have hfirst : NoneRepeated [.bind .maintenance "Absent"] :=
    noneRepeated_snoc.mpr ⟨noneRepeated_nil, fun kind hname => by cases hname⟩
  refine noneRepeated_snoc.mpr ⟨noneRepeated_snoc.mpr ⟨hfirst, fun kind hname => ?_⟩,
    fun kind hname => by cases hname⟩
  cases hname
  show "Gone" ∉ _
  decide

theorem accepted_rebound : ∀ role, Accepted rebound role := by
  intro role kind hk
  cases role with
  | maintenance =>
      injection hk with hk
      subst hk
      exact ⟨_, List.mem_append_right _ List.mem_cons_self, rfl⟩
  | serverInternalError => cases hk

/-- What is bound last counts, a kind that is absent is refused after the roles before
it, and a name that comes again is told alone. Bindings may as well come last. -/
theorem build_told_by_calls_rebound :
    (∃ reg, (ofCalls rebound).build = (.ok reg, [boundEvent .maintenance "Gone"]) ∧
      reg.resolve .maintenance "Other" = "Gone" ∧
      reg.resolve .serverInternalError "Other" = "Other") ∧
    (ofCalls (rebound ++ [.bind .serverInternalError "Absent"])).build =
      (.error (.unresolvable "Absent" .notRegistered), [boundEvent .maintenance "Gone"]) ∧
    (ofCalls (rebound ++ [.declare "Gone" .internalError .serviceUnavailable])).build =
      (.error (.duplicate "Gone"), []) ∧
    (ofCalls [.declare "Gone" .maintainMode .serviceUnavailable,
      .bind .maintenance "Absent", .bind .maintenance "Gone"]).build =
        (ofCalls rebound).build := by
  refine ⟨?_, ?_, ?_, ?_⟩
  · obtain ⟨reg, hbuild, hreg⟩ :=
      (build_told_by_calls rebound).2.2.1 noneRepeated_rebound accepted_rebound
    exact ⟨reg, hbuild, hreg.roles .maintenance _, hreg.roles .serverInternalError _⟩
  · have hnone : NoneRepeated (rebound ++ [.bind .serverInternalError "Absent"]) :=
      noneRepeated_snoc.mpr ⟨noneRepeated_rebound, fun kind hname => by cases hname⟩
    refine (build_told_by_calls _).2.1 hnone [.maintenance] "Absent" .notRegistered
      ⟨.serverInternalError, [], rfl, ?_, rfl, .notRegistered ?_⟩
    · intro role hm kind hk
      rw [List.mem_singleton.mp hm] at hk
      exact accepted_rebound .maintenance kind hk
    · intro factory hregistered
      have hmem : "Absent" ∈ _ := List.mem_map_of_mem (f := Prod.fst) hregistered
      revert hmem
      decide
  · refine (build_told_by_calls _).1 "Gone"
      ⟨rebound, _, [], rfl, rfl, ?_, noneRepeated_rebound⟩
    show "Gone" ∈ _
    decide
  · refine (build_told_by_calls rebound).2.2.2.2 _ ⟨rfl, fun role => ?_⟩
    cases role <;> rfl

end RegistryBuilder

end FaultGate
