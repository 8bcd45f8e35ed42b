import HostLink.Fault
import HostLink.Frame.Buffer
import HostLink.Json.Reader

/-!
# HostLink.Settings.Pipe

The settings of a pipe: where it is found, how long it waits and how much it accepts.
-/

namespace HostLink

/-- The settings of a pipe. -/
structure PipeSettings where
  name : String := "scriptwire"
  /-- A path that takes the place of the name. -/
  path : Option String := none
  /-- Longest wait for bytes in one receive, in milliseconds. -/
  pollInterval : UInt64 := 1
  /-- Longest wait for a peer in one connect, in milliseconds. -/
  connectTimeout : UInt64 := 1
  maxPayloadSize : UInt32 := Frame.defaultMaxPayload
  deriving DecidableEq, Repr

namespace PipeSettings

/-- The settings that a document describes; fields it does not give keep their defaults. -/
def ofJson? (j : Json) : Option PipeSettings := do
  let fields ← j.record?
    ["name", "path", "poll_interval_ms", "connect_timeout_ms", "max_payload_size"]
  let base : PipeSettings := {}
  return {
    name := ← Json.field? fields "name" Json.text? base.name
    path := ← Json.field? fields "path" Json.optionalText? base.path
    pollInterval := ← Json.field? fields "poll_interval_ms" Json.u64? base.pollInterval
    connectTimeout := ← Json.field? fields "connect_timeout_ms" Json.u64? base.connectTimeout
    maxPayloadSize := ← Json.field? fields "max_payload_size" Json.u32? base.maxPayloadSize }

def read (text : String) : Except Fault PipeSettings :=
  match Json.read? text with
  | none => .error .json
  | some j =>
    match ofJson? j with
    | none => .error .json
    | some c => .ok c

/-- The wait for bytes, which is never empty. -/
def pollWait (c : PipeSettings) : Nat := max c.pollInterval.toNat 1

/-- The wait for a peer, which is never empty. -/
def connectWait (c : PipeSettings) : Nat := max c.connectTimeout.toNat 1

def socketPath (c : PipeSettings) : String :=
  match c.path with
  | some path => path
  | none => "/tmp/" ++ c.name ++ ".sock"

end PipeSettings

end HostLink
