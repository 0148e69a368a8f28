import FaultGate.Startup.Launch

/-!
# The command line

Starts the demonstration server from the files and the log filter that the environment names, up
to the point where it would listen.
-/

namespace FaultGate.CommandLine

/-- The base file where the environment names none. -/
def defaultBase : String := "config/config.yaml"

/-- What the system says about an operation that failed. -/
def systemError : IO.Error → Settings.SystemError
  | .alreadyExists _ number text => ⟨text, number.toNat⟩
  | .otherError number text => ⟨text, number.toNat⟩
  | .resourceBusy number text => ⟨text, number.toNat⟩
  | .resourceVanished number text => ⟨text, number.toNat⟩
  | .unsupportedOperation number text => ⟨text, number.toNat⟩
  | .hardwareFault number text => ⟨text, number.toNat⟩
  | .unsatisfiedConstraints number text => ⟨text, number.toNat⟩
  | .illegalOperation number text => ⟨text, number.toNat⟩
  | .protocolError number text => ⟨text, number.toNat⟩
  | .timeExpired number text => ⟨text, number.toNat⟩
  | .interrupted _ number text => ⟨text, number.toNat⟩
  | .noFileOrDirectory _ number text => ⟨text, number.toNat⟩
  | .invalidArgument _ number text => ⟨text, number.toNat⟩
  | .permissionDenied _ number text => ⟨text, number.toNat⟩
  | .resourceExhausted _ number text => ⟨text, number.toNat⟩
  | .inappropriateType _ number text => ⟨text, number.toNat⟩
  | .noSuchThing _ number text => ⟨text, number.toNat⟩
  | .unexpectedEof => ⟨"unexpected end of file", 0⟩
  | .userError text => ⟨text, 0⟩

/-- Reads a file, if it is there. -/
def readFile (path : String) : IO Settings.File := do
  try
    let bytes ← IO.FS.withFile path .read fun file => file.readBinToEnd
    return some (.bytes bytes.toList)
  catch
    | .noFileOrDirectory .. => return none
    | error => return some (.refused (systemError error))

def input : IO LaunchInput := do
  let base ← readFile ((← IO.getEnv "CONFIG_PATH").getD defaultBase)
  let overlay ←
    match ← IO.getEnv "CONFIG_ENV_PATH" with
    | some path => pure (some (← readFile path))
    | none => pure none
  return { base, overlay, filter := ← IO.getEnv "RUST_LOG" }

end FaultGate.CommandLine

/-- Starts the server, and prints its log and its error. -/
def main : IO UInt32 := do
  let launch := FaultGate.Launch.ofInput (← FaultGate.CommandLine.input)
  for line in launch.lines do
    IO.println line
  IO.eprint launch.errorOutput
  return launch.exitCode
