import HostLink.Settings.Pause
import HostLink.Notice

/-!
# HostLink.Pause

Telling that a runtime is paused. A runtime stopped at a breakpoint answers nothing, so calls to it
would wait for ever. It is presumed paused when the last heartbeat went out long after it was last
heard from. While it is, heartbeats are left out, apart from one now and then.

* `Detector.lag` — how long before the last heartbeat the runtime was last heard from.
* `Detector.check`     — whether traffic is to be held back, at a tick or at a call.

Times are whole milliseconds, and a difference of times is never less than zero. That is a choice of
the model and coarser than the clock of a system: moments within one millisecond are one moment, so
a lag may be taken for a millisecond more or less than it is. The settings are in seconds.
-/

namespace HostLink.Pause

/-- What is known of a runtime's answers. -/
structure Detector where
  settings : PauseSettings
  /-- When the runtime was last heard from. -/
  lastInteraction : Option Int
  /-- When the last heartbeat went out. -/
  lastHeartbeat : Option Int
  /-- Heartbeats left out since the last one to a paused runtime; the count wraps at 2^32. -/
  skipped : UInt32
  /-- The result of the last check. -/
  paused : Bool
  deriving DecidableEq, Repr

/-- The time from `earlier` to `later`, or none at all when they are the other way round. -/
def elapsed (earlier later : Int) : Int := max (later - earlier) 0

namespace Detector

/-- A detector that has seen nothing. -/
def initial (settings : PauseSettings) : Detector := ⟨settings, none, none, 0, false⟩

def interaction (now : Int) (d : Detector) : Detector := { d with lastInteraction := some now }

def heartbeat (now : Int) (d : Detector) : Detector := { d with lastHeartbeat := some now }

/-- The time from the last sign of the runtime to the last heartbeat. -/
def lag (d : Detector) : Option Int :=
  match d.lastHeartbeat, d.lastInteraction with
  | some heartbeat, some interaction => some (elapsed interaction heartbeat)
  | _, _ => none

/-- Whether the runtime is presumed paused by the times seen so far. -/
def isStale (d : Detector) : Bool :=
  match d.lag with
  | some stale => decide (d.settings.pauseTimeoutMs ≤ stale)
  | none => false

/-- The time since the last heartbeat. -/
def sinceHeartbeat (now : Int) (d : Detector) : Int :=
  match d.lastHeartbeat with
  | some heartbeat => elapsed heartbeat now
  | none => 0

def keepaliveDue (now : Int) (d : Detector) : Bool :=
  decide (d.settings.keepaliveIntervalMs ≤ d.sinceHeartbeat now) &&
    decide (d.settings.keepaliveMinSkipped < d.skipped)

def edge (d : Detector) : List Notice :=
  if d.isStale && !d.paused then [.pauseDetected]
  else if !d.isStale && d.paused then [.resumeDetected]
  else []

/-- Whether traffic is to be held back at a call. -/
def checkCall (d : Detector) : Bool × Detector × List Notice :=
  if !d.settings.enabled then (false, d, [])
  else (d.isStale, { d with paused := d.isStale }, d.edge)

/-- Whether a heartbeat is to be held back. One held back is counted; a keepalive starts the count
anew, and so does the end of a pause. -/
def checkTick (now : Int) (d : Detector) : Bool × Detector × List Notice :=
  if !d.settings.enabled then (false, d, [])
  else if d.isStale && d.paused then
    if d.keepaliveDue now then (false, { d with skipped := 0 }, [.keepalive])
    else (true, { d with skipped := d.skipped + 1 }, [])
  else if d.isStale then (true, { d with paused := true }, [.pauseDetected])
  else (false, { d with skipped := 0, paused := false }, d.edge)

end Detector

end HostLink.Pause
