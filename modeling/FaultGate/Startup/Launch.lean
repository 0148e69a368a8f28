import FaultGate.Server.Basic
import FaultGate.Startup.LogFilter
import FaultGate.Startup.LogLine
import FaultGate.Startup.SocketAddress

/-!
# Starting the demonstration server

The stages of a start follow one another: the settings are loaded and checked, the server is
made from them, and the address is read on which it is to listen. The first stage that fails
ends the start, and nothing is logged before the settings are accepted.
-/

namespace FaultGate

/-- What a start depends on. -/
structure LaunchInput where
  base : Settings.File
  overlay : Option Settings.File
  /-- The log filter of the environment, in place of the one in the settings. -/
  filter : Option String

inductive LaunchError where
  | settings (error : Settings.Error)
  | build (error : Server.BuildError)
  | address

namespace LaunchError

/-- The cause of an error in the settings, in words. -/
def causes : Settings.Error → List String
  | .file e => [e.message]
  | .parse e => e.message?.toList
  | .violation _ => []
  | .registry e => [e.message]

/-- An error in the settings with its cause. -/
def settingsChain (e : Settings.Error) : ErrorChain :=
  ⟨e.message?.getD "failed to parse YAML", causes e⟩

def chain : LaunchError → ErrorChain
  | .settings e => settingsChain e
  | .build (.settings e) => settingsChain e
  | .build e => ⟨e.message?.getD "", []⟩
  | .address => ⟨"invalid socket address syntax", []⟩

/-- What a failed start prints at last. -/
def report (e : LaunchError) : String :=
  "Error: " ++ e.chain.describe ++ "\n"

end LaunchError

/-- A server that is ready to listen. -/
structure Launched where
  server : Server
  address : SocketAddress

/-- What comes of a start. -/
structure Launch where
  /-- All events, oldest first, whether they are logged or not. -/
  events : List Log.Event
  /-- Which of the events are logged, and in which form. Without settings there is no log. -/
  log : Option (Log.Filter × Log.Format)
  result : Except LaunchError Launched

namespace Launch

/-- The event that the settings are accepted. -/
def startingEvent (h : Settings.Handler) : Log.Event where
  level := .info
  origin := .server
  message := "starting stub-api server"
  fields := [("app_name", .text h.app.name), ("environment", .text h.app.environment),
    ("debug", .flag h.app.debug), ("api_prefix", .text h.scope)]

/-- The event that the server is made. -/
def registeredEvent (server : Server) : Log.Event where
  level := .info
  origin := .server
  message := "exception kinds registered"
  fields := [("kinds", .text (Text.quotedList server.registry.kinds))]

/-- The event that the server is about to listen. -/
def listeningEvent (address : SocketAddress) : Log.Event where
  level := .info
  origin := .server
  message := "REST server starting on " ++ address.text
  fields := []

/-- The filter in force: that of the environment if there is one and all of it can be read, else
that of the settings. -/
def filterOf (environment : Option String) (logging : Settings.Logging) : Log.Filter :=
  match environment.bind Log.Filter.strict? with
  | some filter => filter
  | none => .lenient logging.level

/-- The text of the address that the settings ask for. -/
def addressText (l : Settings.Listen) : String :=
  l.host ++ ":" ++ Nat.repr l.port.toNat

/-- Goes through the stages of a start. -/
def ofInput (input : LaunchInput) : Launch :=
  match Settings.Server.load input.base input.overlay with
  | .error e => ⟨[], none, .error (.settings e)⟩
  | .ok settings =>
    let log := some (filterOf input.filter settings.logging, .ofName settings.logging.format)
    let first := startingEvent settings.handler
    match Server.ofSettings settings with
    | (.error e, events) => ⟨first :: events, log, .error (.build e)⟩
    | (.ok server, events) =>
      let events := first :: events ++ [registeredEvent server]
      match SocketAddress.ofText? (addressText settings.listen) with
      | none => ⟨events, log, .error .address⟩
      | some address => ⟨events ++ [listeningEvent address], log, .ok ⟨server, address⟩⟩

def logged (l : Launch) : List Log.Event :=
  match l.log with
  | none => []
  | some (filter, _) => l.events.filter filter.passes

def lines (l : Launch) : List String :=
  match l.log with
  | none => []
  | some (_, format) => l.logged.map (Log.Event.line format)

/-- What is printed about directives that are no directives. -/
def warnings (l : Launch) : String :=
  match l.log with
  | none => ""
  | some (filter, _) =>
    String.join (filter.ignored.map fun (text, error) =>
      "ignoring \x60" ++ text ++ "\x60: " ++ error.message ++ "\n")

/-- What is printed on the error output. -/
def errorOutput (l : Launch) : String :=
  match l.result with
  | .ok _ => l.warnings
  | .error e => l.warnings ++ e.report

/-- The exit code of a start that ends. -/
def exitCode (l : Launch) : UInt32 :=
  match l.result with
  | .ok _ => 0
  | .error _ => 1

end Launch

end FaultGate
