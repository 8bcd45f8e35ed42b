import HostLink.Settings.Pause
import HostLink.Fault
import HostLink.Frame.Buffer
import HostLink.Json.Reader

/-!
# HostLink.Settings.Session

The settings of a session. Every one has a default, so that an empty document describes settings
too.
-/

namespace HostLink

def protocolVersion : UInt32 := 1

def packVersion (major minor patch : UInt8) : UInt32 :=
  UInt32.ofNat (major.toNat * 65536 + minor.toNat * 256 + patch.toNat)

def buildVersion : UInt32 := packVersion 0 3 0

/-- The directory that a process runs in. -/
inductive ProcessDir where
  | known (dir : String)
  /-- It cannot be read, for this reason. -/
  | unread (reason : String)
  deriving DecidableEq, Repr

/-- The directory as it is announced, empty when it cannot be read. -/
def ProcessDir.announced : ProcessDir → String
  | .known dir => dir
  | .unread _ => ""

/-- The settings of a session. -/
structure SessionSettings where
  maxPayloadSize : UInt32 := Frame.defaultMaxPayload
  /-- The protocol version that is announced. -/
  protocolVersion : UInt32 := HostLink.protocolVersion
  /-- The build version that is announced. -/
  buildVersion : UInt32 := HostLink.buildVersion
  /-- The directory that is announced; the process's own when there is none. -/
  workingDir : Option String := none
  /-- The process's own directory, which no document gives. A service runs in the root directory. -/
  processDir : ProcessDir := .known "/"
  initCallback : String := "OnGameModeInit"
  exitCallback : String := "OnGameModeExit"
  initCommand : String := "gmx"
  pause : PauseSettings := {}
  deriving DecidableEq, Repr

namespace SessionSettings

/-- The settings that a document describes; fields it does not give keep their defaults. -/
def ofJson? (j : Json) : Option SessionSettings := do
  let fields ← j.record?
    ["max_payload_size", "protocol_version", "build_version", "working_dir", "init_callback",
      "exit_callback", "init_command", "debug"]
  let base : SessionSettings := {}
  return {
    maxPayloadSize := ← Json.field? fields "max_payload_size" Json.u32? base.maxPayloadSize
    protocolVersion := ← Json.field? fields "protocol_version" Json.u32? base.protocolVersion
    buildVersion := ← Json.field? fields "build_version" Json.u32? base.buildVersion
    workingDir := ← Json.field? fields "working_dir" Json.optionalText? base.workingDir
    initCallback := ← Json.field? fields "init_callback" Json.text? base.initCallback
    exitCallback := ← Json.field? fields "exit_callback" Json.text? base.exitCallback
    initCommand := ← Json.field? fields "init_command" Json.text? base.initCommand
    pause := ← Json.field? fields "debug" PauseSettings.ofJson? base.pause }

def read (text : String) : Except Fault SessionSettings :=
  match Json.read? text with
  | none => .error .json
  | some j =>
    match ofJson? j with
    | none => .error .json
    | some c => .ok c

end SessionSettings

end HostLink
