import HostLink.Json.Basic

/-!
# HostLink.Settings.Pause

How a runtime that has stopped answering is told from one that is merely slow, and how often it is
still spoken to.
-/

namespace HostLink

/-- The timings of the pause detector. -/
structure PauseSettings where
  enabled : Bool := true
  /-- Seconds of silence after which the runtime is presumed paused. -/
  pauseTimeout : UInt64 := 5
  /-- Least number of seconds between heartbeats to a paused runtime. -/
  keepaliveInterval : UInt64 := 7
  /-- Heartbeats that must be left out before one is let through. -/
  keepaliveMinSkipped : UInt32 := 50
  deriving DecidableEq, Repr

namespace PauseSettings

/-- The timings that a document describes; fields it does not give keep their defaults. -/
def ofJson? (j : Json) : Option PauseSettings := do
  let fields ← j.record?
    ["enabled", "pause_timeout_secs", "keepalive_interval_secs", "keepalive_min_skipped"]
  let base : PauseSettings := {}
  return {
    enabled := ← Json.field? fields "enabled" Json.bool? base.enabled
    pauseTimeout := ← Json.field? fields "pause_timeout_secs" Json.u64? base.pauseTimeout
    keepaliveInterval :=
      ← Json.field? fields "keepalive_interval_secs" Json.u64? base.keepaliveInterval
    keepaliveMinSkipped :=
      ← Json.field? fields "keepalive_min_skipped" Json.u32? base.keepaliveMinSkipped }

/-- The pause timeout in milliseconds. -/
def pauseTimeoutMs (c : PauseSettings) : Int := c.pauseTimeout.toNat * 1000

/-- The keepalive interval in milliseconds. -/
def keepaliveIntervalMs (c : PauseSettings) : Int := c.keepaliveInterval.toNat * 1000

end PauseSettings

end HostLink
