import FaultGate.Proofs.Kinds
import FaultGate.Proofs.Settings.Files
import FaultGate.Startup.Launch

/-!
# A start ends at the first stage that fails

Nine things are asked of what a start is given, and each of them is stated here for itself:
that the text of a file is no document, or that settings declare no fault of a certain name,
is a fact about the files whatever else is wrong with them. A stage can be judged as soon as
there is something to judge, and so several stages can fail on the same files. A document
that decodes to settings is enough for all of the last four.

What a start adds is the order. Where a stage fails and none before it, its error is the
outcome, because everything that is done on the way there has succeeded; where none fails the
server is about to listen. These two cases exclude each other and leave nothing out, so they
hold in both directions.

The log is there as soon as the settings are accepted, and an event of it is told from the
others by its message.
-/

namespace FaultGate

/-! ## The server from its settings -/

namespace Server

open Settings (Known)

variable {s : Settings.Server} {registry : Registry} {told : List Log.Event}

theorem known_quotaExceeded_iff {faults : List Settings.FaultDefinition} :
    Known faults quotaExceeded ↔ ∃ d ∈ faults, d.name = quotaExceeded := by
  constructor
  · rintro (hbuiltin | hbuiltin | h)
    · exact absurd hbuiltin (by decide)
    · exact absurd hbuiltin (by decide)
    · exact h
  · exact fun h => Or.inr (Or.inr h)

theorem ofSettings_of_unbuilt {e : Settings.Error}
    (hr : s.handler.buildRegistry = (.error e, told)) :
    ofSettings s = (.error (.settings e), told) := by
  rw [ofSettings, hr]

theorem ofSettings_of_undeclared (hr : s.handler.buildRegistry = (.ok registry, told))
    (hd : ¬ ∃ d ∈ s.handler.faults, d.name = quotaExceeded) :
    ofSettings s = (.error (.undeclared quotaExceeded), told) := by
  rw [← known_quotaExceeded_iff, ← Settings.Handler.contains_of_buildRegistry hr,
    Bool.not_eq_true] at hd
  simp only [ofSettings, hr, hd, Bool.not_false, if_true]

theorem ofSettings_of_declared (hr : s.handler.buildRegistry = (.ok registry, told))
    (hd : ∃ d ∈ s.handler.faults, d.name = quotaExceeded) :
    ∃ server, ofSettings s = (.ok server, told) := by
  rw [← known_quotaExceeded_iff, ← Settings.Handler.contains_of_buildRegistry hr] at hd
  simp only [ofSettings, hr, hd, Bool.not_true, Bool.false_eq_true, if_false]
  exact ⟨_, rfl⟩

end Server

namespace Launch

/-! ## The stages -/

inductive Stage where
  | readBase
  | parseBase
  | readOverlay
  | parseOverlay
  | decode
  | validate
  | register
  | require
  | locate
  deriving DecidableEq, Repr

/-- The stages in their order. -/
def Stage.all : List Stage :=
  [.readBase, .parseBase, .readOverlay, .parseOverlay, .decode, .validate, .register, .require,
    .locate]

section Judgements

variable (input : LaunchInput)

/-- The document that the settings are decoded from. -/
inductive Merged : Yaml.Value → Prop
  | alone {v : Yaml.Value} (given : input.overlay = none) (base : input.base.Holds v) : Merged v
  | overlaid {file : Settings.File} {v w : Yaml.Value} (given : input.overlay = some file)
    (base : input.base.Holds v) (overlay : file.Holds w) : Merged (v.merge w)

def Decodes (settings : Settings.Server) : Prop :=
  ∃ doc, Merged input doc ∧ Settings.Server.read doc = .ok settings

/-- The settings decode and pass the check for plausibility. -/
structure Accepted (settings : Settings.Server) : Prop where
  decodes : Decodes input settings
  fit : settings.handler.Fit

/-- All is well with the settings, and they ask to listen on this address. -/
structure Ready (settings : Settings.Server) (address : SocketAddress) : Prop where
  accepted : Accepted input settings
  builds : ∃ registry told, settings.handler.buildRegistry = (.ok registry, told)
  declared : ∃ d ∈ settings.handler.faults, d.name = Server.quotaExceeded
  located : SocketAddress.ofText? (addressText settings.listen) = some address

/-- The stage fails with this error, whether or not another one does. -/
inductive Fails : Stage → LaunchError → Prop
  | readBase {e : Settings.FileError} (read : input.base.text = .error e) :
    Fails .readBase (.settings (.file e))
  | parseBase {text : String} {e : Yaml.ReadError} (read : input.base.text = .ok text)
    (parse : Yaml.Value.ofText text = .error e) :
    Fails .parseBase (.settings (.parse (.text e)))
  | readOverlay {file : Settings.File} {e : Settings.FileError}
    (given : input.overlay = some file) (read : file.text = .error e) :
    Fails .readOverlay (.settings (.file e))
  | parseOverlay {file : Settings.File} {text : String} {e : Yaml.ReadError}
    (given : input.overlay = some file) (read : file.text = .ok text)
    (parse : Yaml.Value.ofText text = .error e) :
    Fails .parseOverlay (.settings (.parse (.text e)))
  | decode {doc : Yaml.Value} {e : Settings.DecodeError} (merged : Merged input doc)
    (decode : Settings.Server.read doc = .error e) :
    Fails .decode (.settings (.parse (.value e)))
  | validate {settings : Settings.Server} {v : Settings.Violation}
    (decodes : Decodes input settings) (complaint : settings.handler.Complaint v) :
    Fails .validate (.settings (.violation v))
  | register {settings : Settings.Server} {e : Settings.Error} {told : List Log.Event}
    (decodes : Decodes input settings)
    (build : settings.handler.buildRegistry = (.error e, told)) :
    Fails .register (.build (.settings e))
  | require {settings : Settings.Server} (decodes : Decodes input settings)
    (undeclared : ¬ ∃ d ∈ settings.handler.faults, d.name = Server.quotaExceeded) :
    Fails .require (.build (.undeclared Server.quotaExceeded))
  | locate {settings : Settings.Server} (decodes : Decodes input settings)
    (locate : SocketAddress.ofText? (addressText settings.listen) = none) :
    Fails .locate .address

def Failing (_ : List Stage) (stage : Stage) : Prop :=
  ∃ e, Fails input stage e

end Judgements

variable {input : LaunchInput} {settings : Settings.Server} {stage : Stage} {before : List Stage}

/-! ## What follows where a stage does not fail -/

theorem not_failing_of_earlier (h : FirstWrong (Failing input) Stage.all before stage)
    (other : Stage) (ho : other ∈ Stage.all.takeWhile (· ≠ stage)) :
    ¬ ∃ e, Fails input other e := by
  rw [← h.before_eq (by decide)] at ho
  exact noneWrong_iff_forall.mp h.earlier other ho

theorem base_of_not_failing (hread : ¬ ∃ e, Fails input .readBase e)
    (hparse : ¬ ∃ e, Fails input .parseBase e) : ∃ v, input.base.Holds v := by
  cases htext : input.base.text with
  | error e => exact absurd ⟨_, .readBase htext⟩ hread
  | ok text =>
      cases hv : Yaml.Value.ofText text with
      | error e => exact absurd ⟨_, .parseBase htext hv⟩ hparse
      | ok v => exact ⟨v, text, htext, hv⟩

theorem merged_of_not_failing {v : Yaml.Value} (hbase : input.base.Holds v)
    (hread : ¬ ∃ e, Fails input .readOverlay e)
    (hparse : ¬ ∃ e, Fails input .parseOverlay e) : ∃ doc, Merged input doc := by
  cases hgiven : input.overlay with
  | none => exact ⟨v, .alone hgiven hbase⟩
  | some file =>
      cases htext : file.text with
      | error e => exact absurd ⟨_, .readOverlay hgiven htext⟩ hread
      | ok text =>
          cases hw : Yaml.Value.ofText text with
          | error e => exact absurd ⟨_, .parseOverlay hgiven htext hw⟩ hparse
          | ok w => exact ⟨_, .overlaid hgiven hbase ⟨text, htext, hw⟩⟩

theorem decodes_of_not_failing {doc : Yaml.Value} (hdoc : Merged input doc)
    (h : ¬ ∃ e, Fails input .decode e) : ∃ settings, Decodes input settings := by
  cases hread : Settings.Server.read doc with
  | error e => exact absurd ⟨_, .decode hdoc hread⟩ h
  | ok settings => exact ⟨settings, doc, hdoc, hread⟩

theorem Decodes.accepted (hd : Decodes input settings) (h : ¬ ∃ e, Fails input .validate e) :
    Accepted input settings := by
  rcases settings.handler.complaint_or_fit with ⟨v, hv⟩ | hfit
  · exact absurd ⟨_, .validate hd hv⟩ h
  · exact ⟨hd, hfit⟩

theorem Decodes.builds (hd : Decodes input settings) (h : ¬ ∃ e, Fails input .register e) :
    ∃ registry told, settings.handler.buildRegistry = (.ok registry, told) := by
  cases hr : settings.handler.buildRegistry with
  | mk result told =>
      cases result with
      | error e => exact absurd ⟨_, .register hd hr⟩ h
      | ok registry => exact ⟨registry, told, rfl⟩

theorem Decodes.declared (hd : Decodes input settings) (h : ¬ ∃ e, Fails input .require e) :
    ∃ d ∈ settings.handler.faults, d.name = Server.quotaExceeded := by
  by_contra hnone
  exact h ⟨_, .require hd hnone⟩

theorem Decodes.located (hd : Decodes input settings) (h : ¬ ∃ e, Fails input .locate e) :
    ∃ address, SocketAddress.ofText? (addressText settings.listen) = some address := by
  cases ha : SocketAddress.ofText? (addressText settings.listen) with
  | none => exact absurd ⟨_, .locate hd ha⟩ h
  | some address => exact ⟨address, rfl⟩

theorem ready_of_none_failing (h : NoneWrong (Failing input) Stage.all) :
    ∃ settings address, Ready input settings address := by
  have hnot : ∀ stage ∈ Stage.all, ¬ ∃ e, Fails input stage e := noneWrong_iff_forall.mp h
  obtain ⟨v, hbase⟩ := base_of_not_failing (hnot _ (by decide)) (hnot _ (by decide))
  obtain ⟨doc, hdoc⟩ := merged_of_not_failing hbase (hnot _ (by decide)) (hnot _ (by decide))
  obtain ⟨settings, hd⟩ := decodes_of_not_failing hdoc (hnot _ (by decide))
  obtain ⟨address, hlocated⟩ := hd.located (hnot _ (by decide))
  exact ⟨settings, address, hd.accepted (hnot _ (by decide)), hd.builds (hnot _ (by decide)),
    hd.declared (hnot _ (by decide)), hlocated⟩

/-! ## What a start comes to -/

theorem Merged.layered_eq {doc : Yaml.Value} (h : Merged input doc) :
    Settings.layered input.base input.overlay = .ok doc := by
  cases h with
  | alone hgiven hbase =>
      rw [Settings.layered, hbase.value_eq, hgiven]
      rfl
  | overlaid hgiven hbase hoverlay =>
      rw [hgiven]
      exact Settings.layered_of_overlay hbase hoverlay

theorem Decodes.load_eq (hd : Decodes input settings) :
    Settings.Server.load input.base input.overlay =
      settings.handler.validate.map fun _ => settings := by
  obtain ⟨doc, hdoc, hread⟩ := hd
  exact Settings.Server.load_of_decoded hdoc.layered_eq hread

theorem Accepted.load_eq (ha : Accepted input settings) :
    Settings.Server.load input.base input.overlay = .ok settings := by
  rw [ha.decodes.load_eq, Settings.Handler.validate_eq_ok_iff.mpr ha.fit]
  rfl

theorem ofInput_of_load_error {e : Settings.Error}
    (h : Settings.Server.load input.base input.overlay = .error e) :
    ofInput input = ⟨[], none, .error (.settings e)⟩ := by
  rw [ofInput, h]

section Made

variable {server : Server} {told : List Log.Event} {address : SocketAddress}

theorem Accepted.ofInput_unmade (ha : Accepted input settings) {e : Server.BuildError}
    (hs : Server.ofSettings settings = (.error e, told)) :
    ofInput input = ⟨startingEvent settings.handler :: told,
      some (filterOf input.filter settings.logging, .ofName settings.logging.format),
      .error (.build e)⟩ := by
  rw [ofInput, ha.load_eq]
  simp only [hs]

theorem Accepted.ofInput_unlocated (ha : Accepted input settings)
    (hs : Server.ofSettings settings = (.ok server, told))
    (hn : SocketAddress.ofText? (addressText settings.listen) = none) :
    ofInput input = ⟨startingEvent settings.handler :: told ++ [registeredEvent server],
      some (filterOf input.filter settings.logging, .ofName settings.logging.format),
      .error .address⟩ := by
  rw [ofInput, ha.load_eq]
  simp only [hs, hn]

theorem Accepted.ofInput_located (ha : Accepted input settings)
    (hs : Server.ofSettings settings = (.ok server, told))
    (hl : SocketAddress.ofText? (addressText settings.listen) = some address) :
    ofInput input = ⟨startingEvent settings.handler :: told ++ [registeredEvent server] ++
        [listeningEvent address],
      some (filterOf input.filter settings.logging, .ofName settings.logging.format),
      .ok ⟨server, address⟩⟩ := by
  rw [ofInput, ha.load_eq]
  simp only [hs, hl]

end Made

theorem Ready.result_eq {address : SocketAddress} (h : Ready input settings address) :
    ∃ server, (ofInput input).result = .ok ⟨server, address⟩ := by
  obtain ⟨registry, told, hr⟩ := h.builds
  obtain ⟨server, hs⟩ := Server.ofSettings_of_declared hr h.declared
  exact ⟨server, by rw [h.accepted.ofInput_located hs h.located]⟩

/-! Where a stage fails and none before it, what comes before it has succeeded: as far as the
stage needs it to be judged at all, and for the rest because those stages did not fail. -/

section FirstFailing

variable (hfirst : FirstWrong (Failing input) Stage.all before stage)

include hfirst

theorem load_of_firstWrong {e : Settings.Error} (hfails : Fails input stage (.settings e)) :
    Settings.Server.load input.base input.overlay = .error e := by
  have hnot := not_failing_of_earlier hfirst
  cases hfails with
  | readBase hread =>
      have hbase := Settings.File.value_of_unread hread
      exact Settings.Server.load_of_layered_error (Settings.layered_of_base_error hbase)
  | parseBase hread hparse =>
      have hbase := Settings.File.value_of_unparsed hread hparse
      exact Settings.Server.load_of_layered_error (Settings.layered_of_base_error hbase)
  | readOverlay hgiven hread =>
      obtain ⟨v, hbase⟩ := base_of_not_failing (hnot .readBase (by decide))
        (hnot .parseBase (by decide))
      have hoverlay := Settings.File.value_of_unread hread
      rw [hgiven]
      exact Settings.Server.load_of_layered_error
        (Settings.layered_of_overlay_error hbase hoverlay)
  | parseOverlay hgiven hread hparse =>
      obtain ⟨v, hbase⟩ := base_of_not_failing (hnot .readBase (by decide))
        (hnot .parseBase (by decide))
      have hoverlay := Settings.File.value_of_unparsed hread hparse
      rw [hgiven]
      exact Settings.Server.load_of_layered_error
        (Settings.layered_of_overlay_error hbase hoverlay)
  | decode hdoc hread => exact Settings.Server.load_of_undecoded hdoc.layered_eq hread
  | validate hd hcomplaint =>
      rw [hd.load_eq, Settings.Handler.validate_eq_error_iff.mpr ⟨_, rfl, hcomplaint⟩]
      rfl

theorem accepted_of_firstWrong {e : LaunchError} (hfails : Fails input stage e)
    (he : ∀ cause, e ≠ .settings cause) : ∃ settings, Accepted input settings := by
  have hnot := not_failing_of_earlier hfirst
  cases hfails with
  | register hd _ => exact ⟨_, hd.accepted (hnot .validate (by decide))⟩
  | require hd _ => exact ⟨_, hd.accepted (hnot .validate (by decide))⟩
  | locate hd _ => exact ⟨_, hd.accepted (hnot .validate (by decide))⟩
  | _ => exact absurd rfl (he _)

theorem result_of_firstWrong {e : LaunchError} (hfails : Fails input stage e) :
    (ofInput input).result = .error e := by
  have hnot := not_failing_of_earlier hfirst
  cases e with
  | settings e => rw [ofInput_of_load_error (load_of_firstWrong hfirst hfails)]
  | build e =>
      cases hfails with
      | register hd hr =>
          have ha := hd.accepted (hnot .validate (by decide))
          rw [ha.ofInput_unmade (Server.ofSettings_of_unbuilt hr)]
      | require hd hundeclared =>
          have ha := hd.accepted (hnot .validate (by decide))
          obtain ⟨registry, told, hr⟩ := hd.builds (hnot .register (by decide))
          rw [ha.ofInput_unmade (Server.ofSettings_of_undeclared hr hundeclared)]
  | address =>
      cases hfails with
      | locate hd hn =>
          have ha := hd.accepted (hnot .validate (by decide))
          obtain ⟨registry, told, hr⟩ := hd.builds (hnot .register (by decide))
          obtain ⟨server, hs⟩ :=
            Server.ofSettings_of_declared hr (hd.declared (hnot .require (by decide)))
          rw [ha.ofInput_unlocated hs hn]

end FirstFailing

theorem result_eq_error_iff {e : LaunchError} :
    (ofInput input).result = .error e ↔
      ∃ before stage, FirstWrong (Failing input) Stage.all before stage ∧ Fails input stage e := by
  constructor
  · intro he
    rcases firstWrong_or_noneWrong (Failing input) Stage.all with ⟨before, stage, hfirst⟩ | hnone
    · obtain ⟨own, hown⟩ := hfirst.wrong
      rw [result_of_firstWrong hfirst hown] at he
      injection he with he
      exact ⟨before, stage, hfirst, he ▸ hown⟩
    · obtain ⟨settings, address, hready⟩ := ready_of_none_failing hnone
      obtain ⟨server, hok⟩ := hready.result_eq
      rw [hok] at he
      cases he
  · rintro ⟨before, stage, hfirst, hfails⟩
    exact result_of_firstWrong hfirst hfails

theorem result_eq_ok_iff {address : SocketAddress} :
    (∃ server, (ofInput input).result = .ok ⟨server, address⟩) ↔
      ∃ settings, Ready input settings address := by
  constructor
  · rintro ⟨server, hok⟩
    rcases firstWrong_or_noneWrong (Failing input) Stage.all with ⟨before, stage, hfirst⟩ | hnone
    · obtain ⟨e, he⟩ := hfirst.wrong
      rw [result_of_firstWrong hfirst he] at hok
      cases hok
    · obtain ⟨settings, own, hready⟩ := ready_of_none_failing hnone
      obtain ⟨ownServer, hown⟩ := hready.result_eq
      rw [hown] at hok
      cases hok
      exact ⟨settings, hready⟩
  · rintro ⟨settings, hready⟩
    exact hready.result_eq

/-! ## The log on the way -/

theorem accepted_or_load_error (input : LaunchInput) :
    (∃ settings, Accepted input settings) ∨
      ∃ e, Settings.Server.load input.base input.overlay = .error e := by
  rcases firstWrong_or_noneWrong (Failing input) Stage.all with ⟨before, stage, hfirst⟩ | hnone
  · obtain ⟨e, he⟩ := hfirst.wrong
    cases e with
    | settings e => exact Or.inr ⟨e, load_of_firstWrong hfirst he⟩
    | build e => exact Or.inl (accepted_of_firstWrong hfirst he fun _ => LaunchError.noConfusion)
    | address => exact Or.inl (accepted_of_firstWrong hfirst he fun _ => LaunchError.noConfusion)
  · obtain ⟨settings, _, hready⟩ := ready_of_none_failing hnone
    exact Or.inl ⟨settings, hready.accepted⟩

theorem events_of_not_accepted (h : ¬ ∃ settings, Accepted input settings) :
    (ofInput input).events = [] := by
  obtain ⟨e, he⟩ := (accepted_or_load_error input).resolve_left h
  rw [ofInput_of_load_error he]

/-! An event is told from the others by its message. -/

theorem message_of_bound {event : Log.Event} (he : event ∈ (Server.ofSettings settings).2) :
    event.message = "exception role bound" := by
  obtain ⟨role, kind, rfl⟩ := Server.ofSettings_events settings event he
  rfl

theorem listeningEvent_message_ne {address : SocketAddress} {message : String}
    (h : message.toList.head? ≠ some 'R') : (listeningEvent address).message ≠ message := by
  rintro rfl
  simp [listeningEvent] at h

section Accepted

variable {event : Log.Event} (ha : Accepted input settings)

include ha

/-- Once the settings are accepted there is a log. What comes in it after the roles depends on
how far the start gets. -/
theorem Accepted.exists_events_eq : ∃ after,
    (ofInput input).events =
      startingEvent settings.handler :: ((Server.ofSettings settings).2 ++ after) ∧
    (ofInput input).log =
      some (filterOf input.filter settings.logging, .ofName settings.logging.format) ∧
    ∀ event, event ∈ after ↔ ∃ server told, Server.ofSettings settings = (.ok server, told) ∧
      (event = registeredEvent server ∨ ∃ address,
        SocketAddress.ofText? (addressText settings.listen) = some address ∧
          event = listeningEvent address) := by
  cases hs : Server.ofSettings settings with
  | mk result told =>
      cases result with
      | error e =>
          rw [ha.ofInput_unmade hs]
          exact ⟨[], by simp, rfl, by simp⟩
      | ok server =>
          cases hl : SocketAddress.ofText? (addressText settings.listen) with
          | none =>
              rw [ha.ofInput_unlocated hs hl]
              exact ⟨[registeredEvent server], by simp, rfl, by simp⟩
          | some address =>
              rw [ha.ofInput_located hs hl]
              exact ⟨[registeredEvent server, listeningEvent address], by simp, rfl, by simp⟩

theorem Accepted.exists_events_cons :
    ∃ rest, (ofInput input).events = startingEvent settings.handler :: rest := by
  obtain ⟨after, hevents, _⟩ := ha.exists_events_eq
  exact ⟨_, hevents⟩

theorem Accepted.mem_logged_iff :
    event ∈ (ofInput input).logged ↔ event ∈ (ofInput input).events ∧
      (filterOf input.filter settings.logging).passes event = true := by
  obtain ⟨after, _, hlog, _⟩ := ha.exists_events_eq
  rw [logged, hlog]
  exact List.mem_filter

theorem Accepted.starting_iff :
    event ∈ (ofInput input).events ∧ event.message = "starting stub-api server" ↔
      event = startingEvent settings.handler := by
  obtain ⟨after, hevents, _, hafter⟩ := ha.exists_events_eq
  rw [hevents, List.mem_cons, List.mem_append, hafter]
  constructor
  · rintro ⟨rfl | hbound | ⟨server, told, _, rfl | ⟨address, _, rfl⟩⟩, hmessage⟩
    · rfl
    · simp [message_of_bound hbound] at hmessage
    · simp [registeredEvent] at hmessage
    · exact absurd hmessage (listeningEvent_message_ne (by decide))
  · rintro rfl
    exact ⟨Or.inl rfl, rfl⟩

theorem Accepted.registered_iff :
    event ∈ (ofInput input).events ∧ event.message = "exception kinds registered" ↔
      ∃ server told, Server.ofSettings settings = (.ok server, told) ∧
        event = registeredEvent server := by
  obtain ⟨after, hevents, _, hafter⟩ := ha.exists_events_eq
  rw [hevents, List.mem_cons, List.mem_append, hafter]
  constructor
  · rintro ⟨rfl | hbound | ⟨server, told, hs, rfl | ⟨address, _, rfl⟩⟩, hmessage⟩
    · simp [startingEvent] at hmessage
    · simp [message_of_bound hbound] at hmessage
    · exact ⟨server, told, hs, rfl⟩
    · exact absurd hmessage (listeningEvent_message_ne (by decide))
  · rintro ⟨server, told, hs, rfl⟩
    exact ⟨Or.inr (Or.inr ⟨server, told, hs, Or.inl rfl⟩), rfl⟩

end Accepted

/-- What is known of the events with some message holds of those that are logged, as far as the
filter lets them pass. -/
theorem logged_iff {message : String} {P : Settings.Server → Log.Event → Prop}
    (hP : ∀ settings, Accepted input settings → ∀ event,
      event ∈ (ofInput input).events ∧ event.message = message ↔ P settings event)
    (event : Log.Event) :
    event ∈ (ofInput input).logged ∧ event.message = message ↔
      ∃ settings, Accepted input settings ∧ P settings event ∧
        (filterOf input.filter settings.logging).passes event = true := by
  constructor
  · rintro ⟨hlogged, hmessage⟩
    rcases accepted_or_load_error input with ⟨settings, ha⟩ | ⟨e, he⟩
    · obtain ⟨hmem, hpasses⟩ := ha.mem_logged_iff.mp hlogged
      exact ⟨settings, ha, (hP settings ha event).mp ⟨hmem, hmessage⟩, hpasses⟩
    · rw [ofInput_of_load_error he] at hlogged
      cases hlogged
  · rintro ⟨settings, ha, hown, hpasses⟩
    obtain ⟨hmem, hmessage⟩ := (hP settings ha event).mpr hown
    exact ⟨ha.mem_logged_iff.mpr ⟨hmem, hpasses⟩, hmessage⟩

/-- Nothing fails here, and the filter of the settings lets all events of the server pass. -/
example :
    let text := "app: \x7bname: x\x7d\n" ++
      "errors: [\x7bname: QuotaExceeded, code: Q, status: 429\x7d]"
    let launch := ofInput ⟨some (Text.utf8 text), none, none⟩
    launch.exitCode = 0 ∧ launch.logged.map (·.message) =
      ["starting stub-api server", "exception kinds registered",
        "REST server starting on 0.0.0.0:8080"] := by
  decide +kernel

/-- The scope is wrong and no quota is declared: the former is told, and there is no log. -/
example :
    let launch := ofInput ⟨some (Text.utf8 "app:\n name: x\napi:\n prefix: v1"), none, none⟩
    launch.errorOutput = "Error: validation error: api.prefix must start with '/'\n" ∧
      launch.lines = [] := by
  decide +kernel

end Launch

end FaultGate
