import FaultGate.Settings.File

/-!
# The settings of the demonstration server

The server's file holds its own sections beside those of fault handling. The latter are set aside
while the own sections are read, whatever their order in the file, and are read after them.
-/

namespace FaultGate.Settings

/-- Where the server listens. -/
structure Listen where
  host : String
  port : UInt16
  deriving DecidableEq, Repr

namespace Listen

def default : Listen := ⟨"0.0.0.0", 8080⟩

def read : Reader Listen := fun v => do
  let s ← Section.ofValue .direct "ServerConfig" ["host", "port"] v
  s.check [.readable "host" text, .readable "port" word16]
  return {
    host := ← s.withDefault "host" text default.host
    port := ← s.withDefault "port" word16 default.port }

end Listen

structure Maintenance where
  /-- The file whose existence means maintenance. -/
  flagPath : Option String
  retryAfter : Option UInt64
  deriving DecidableEq, Repr

namespace Maintenance

def default : Maintenance := ⟨none, none⟩

def read : Reader Maintenance := fun v => do
  let s ← Section.ofValue .direct "MaintenanceConfig" ["flag_path", "retry_after"] v
  s.check [.readable "flag_path" (optional text), .readable "retry_after" (optional word64)]
  return {
    flagPath := ← s.withDefault "flag_path" (optional text) none
    retryAfter := ← s.withDefault "retry_after" (optional word64) none }

end Maintenance

/-- What is logged, and in which form. -/
structure Logging where
  level : String
  format : String
  deriving DecidableEq, Repr

namespace Logging

def default : Logging := ⟨"info", "json"⟩

def read : Reader Logging := fun v => do
  let s ← Section.ofValue .direct "LogConfig" ["level", "format"] v
  s.check [.readable "level" text, .readable "format" text]
  return {
    level := ← s.withDefault "level" text default.level
    format := ← s.withDefault "format" text default.format }

/-- The section that holds the logging section. -/
def readOuter : Reader Logging := fun v => do
  let s ← Section.ofValue .direct "ObservabilityConfig" ["log"] v
  s.check [.readable "log" read]
  s.withDefault "log" read default

end Logging

/-- The settings of the server. -/
structure Server where
  handler : Handler
  listen : Listen
  maintenance : Maintenance
  logging : Logging
  deriving DecidableEq, Repr

namespace Server

/-- The sections that are the server's own. -/
def ownFields : List String := ["server", "maintenance", "observability"]

/-- What is wrong with an entry that is set aside: it must not hold a tag. -/
def asideError? (v : Yaml.Value) : Option DecodeError :=
  if hasTag v then some .tagSetAside else none

/-- The part of a document that is set aside. -/
def aside (s : Section) : Section :=
  { s with
    entries := s.entries.filter fun e =>
      match e.1 with
      | .named name => !ownFields.contains name
      | _ => true }

def read : Reader Server := fun v => do
  let s ← Section.ofValue .direct "Config" ownFields v
  s.checkWith asideError? [.readable "server" Listen.read, .readable "maintenance" Maintenance.read,
    .readable "observability" Logging.readOuter]
  return {
    handler := ← Handler.ofSection .setAside (aside s)
    listen := ← s.withDefault "server" Listen.read .default
    maintenance := ← s.withDefault "maintenance" Maintenance.read .default
    logging := ← s.withDefault "observability" Logging.readOuter .default }

/-- Reads the server's settings from its files, and checks them. -/
def load (base : File) (overlay : Option File) : Except Error Server := do
  let settings ← Settings.load read base overlay
  settings.handler.validate
  return settings

end Server

end FaultGate.Settings
