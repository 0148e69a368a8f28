import FaultGate.Settings.Server

/-!
# Files, one after the other

Reading settings is a chain of steps, each of which ends it when it fails. Here is what comes
out of the chain for each of the ways it can go: the base first, then the overlay if one is
given, then the document that both come to.
-/

namespace FaultGate.Settings

/-- The file is there, and its text is a document with this value. -/
def File.Holds (file : File) (v : Yaml.Value) : Prop :=
  ∃ text, file.text = .ok text ∧ Yaml.Value.ofText text = .ok v

section

variable {file base : File} {overlay : Option File} {v : Yaml.Value} {e : Error}

theorem File.Holds.value_eq (h : file.Holds v) : file.value = .ok v := by
  obtain ⟨text, htext, hv⟩ := h
  rw [value, htext]
  simp only [hv]

theorem File.value_of_unread {e : FileError} (h : file.text = .error e) :
    file.value = .error (.file e) := by
  rw [value, h]

theorem File.value_of_unparsed {text : String} {e : Yaml.ReadError} (htext : file.text = .ok text)
    (hv : Yaml.Value.ofText text = .error e) : file.value = .error (.parse (.text e)) := by
  rw [value, htext]
  simp only [hv]

theorem layered_of_base_error (h : base.value = .error e) : layered base overlay = .error e := by
  rw [layered, h]
  rfl

theorem layered_of_overlay_error (hbase : base.Holds v) (h : file.value = .error e) :
    layered base (some file) = .error e := by
  rw [layered, hbase.value_eq]
  show (file.value >>= fun w => pure (v.merge w)) = _
  rw [h]
  rfl

theorem layered_of_overlay {w : Yaml.Value} (hbase : base.Holds v) (h : file.Holds w) :
    layered base (some file) = .ok (v.merge w) := by
  rw [layered, hbase.value_eq]
  show (file.value >>= fun w => pure (v.merge w)) = _
  rw [h.value_eq]
  rfl

theorem load_of_layered {α : Type} {read : Reader α} {doc : Yaml.Value}
    (h : layered base overlay = .ok doc) :
    load read base overlay = (read doc).mapError fun e => .parse (.value e) := by
  rw [load, h]
  simp only [bind, Except.bind]
  cases read doc with
  | error e => rfl
  | ok settings => rfl

namespace Server

theorem load_of_layered_error (h : layered base overlay = .error e) :
    load base overlay = .error e := by
  rw [load, Settings.load, h]
  rfl

theorem load_of_undecoded {doc : Yaml.Value} {e : DecodeError}
    (h : layered base overlay = .ok doc) (hdoc : read doc = .error e) :
    load base overlay = .error (.parse (.value e)) := by
  rw [load, load_of_layered h, hdoc]
  rfl

theorem load_of_decoded {doc : Yaml.Value} {settings : Server}
    (h : layered base overlay = .ok doc) (hdoc : read doc = .ok settings) :
    load base overlay = settings.handler.validate.map fun _ => settings := by
  rw [load, load_of_layered h, hdoc]
  show (settings.handler.validate >>= fun _ => pure settings) = _
  cases settings.handler.validate with
  | error e => rfl
  | ok _ => rfl

end Server

end

end FaultGate.Settings
