import HostLink.Session.Serve

/-!
# HostLink.Session.Drive

What a host does with a session: a tick at regular times, and a call when something has happened.
Both look at the channel again and again. How often they may is their patience, a number; a tick or
call whose patience runs out gives `none`.

* `Session.poll`       — receives and serves at most one frame, connecting first if need be.
* `Session.awaitReply` — receives until an answer comes.
* `Session.tick`       — a heartbeat if one is due, then all frames that have come.
* `Session.call`       — forwards a callback and waits for its value.
-/

namespace HostLink.Session

variable {κ η : Type} [Channel κ] [Host η]

def connectionLost : String := "connection lost"

def hear (f : Frame) (s : Session κ η) : Session κ η :=
  { s with detector := s.detector.interaction (Channel.now s.channel) }.record (.received f)

/-- Receives and serves at most one frame. -/
def poll [Invoker κ η] (await : Wait κ η) (s : Session κ η) : Option (Step × Session κ η) :=
  if s.status.isUp && !Channel.isConnected s.channel then
    some (.dead, s.disconnect (some connectionLost) false)
  else
    match s.connect with
    | (false, s) => some (.dead, s)
    | (true, s) =>
      match Channel.receive s.channel with
      | (.nothing, c) => some (.nothing, { s with channel := c })
      | (.dead, c) =>
        some (.dead, { s with channel := c }.disconnect (some connectionLost) false)
      | (.frame f, c) => ({ s with channel := c }.hear f).serveFrame await f

def awaitReply [Invoker κ η] : Nat → Wait κ η
  | 0, _ => none
  | patience + 1, s =>
    match s.poll (awaitReply patience) with
    | none => none
    | some (.served, s) => awaitReply patience s
    | some (.nothing, s) => awaitReply patience s
    | some (.answer payload, s) => some (some payload, s)
    | some (.dead, s) => some (none, s)

/-- Serves all frames that have come; an answer nobody waits for is noted. -/
def drain [Invoker κ η] : Nat → Session κ η → Option (Session κ η)
  | 0, _ => none
  | patience + 1, s =>
    match s.poll (awaitReply patience) with
    | none => none
    | some (.served, s) => drain patience s
    | some (.answer payload, s) => drain patience (s.note (.strayReply payload.length))
    | some (.nothing, s) => some s
    | some (.dead, s) => some s

/-- Sends a heartbeat unless the runtime is presumed paused. -/
def beat (s : Session κ η) : Session κ η :=
  let now := Channel.now s.channel
  match s.detector.checkTick now with
  | (true, detector, notices) => { s with detector := detector }.noteAll notices
  | (false, detector, notices) =>
    ({ s with detector := detector.heartbeat now }.noteAll notices).send Opcode.tick []

/-- Sends a heartbeat if the status permits it. -/
def heartbeat (s : Session κ η) : Session κ η :=
  if s.isConnected && s.status.allows .heartbeat then (s.setHolding false).beat else s

def tick [Invoker κ η] (patience : Nat) (s : Session κ η) : Option (Session κ η) :=
  s.heartbeat.drain patience

/-- Takes note of a callback that marks the beginning or the end of the host's script. -/
def observe (name : String) (s : Session κ η) : Session κ η :=
  if name = s.settings.initCallback then { s with status := s.status.hostStarted }
  else if name = s.settings.exitCallback then { s with status := s.status.hostEnded }
  else s

/-- Checks whether a callback may go out now: the init callback opens the way for the others, and
none goes out to a paused runtime. -/
def gate (name : String) (s : Session κ η) : Bool × Session κ η :=
  if !(s.isConnected && s.status.allows .call) then (false, s)
  else
    let s := s.setHolding false
    let s :=
      if name = s.settings.initCallback then { s with status := s.status.initDelivered } else s
    if !s.status.clientInit then (false, s)
    else
      match s.detector.checkCall with
      | (paused, detector, notices) => (!paused, { s with detector := detector }.noteAll notices)

def replyValue (reply : Option Bytes) : Option Int32 :=
  match reply with
  | none => none
  | some payload =>
    match CallAnswer.decode? payload with
    | none => none
    | some r => r.value

/-- Forwards a callback and waits for its value; `none` inside when it was not forwarded or gave no
value. -/
def call [Invoker κ η] (patience : Nat) (caller : UInt16) (name : String)
    (params : List Callback.Param) (s : Session κ η) : Option (Option Int32 × Session κ η) :=
  match (s.observe name).gate name with
  | (false, s) => some (none, s)
  | (true, s) =>
    match s.callPayload caller name params with
    | .error e => some (none, s.note (.notForwarded name e))
    | .ok none => some (none, s)
    | .ok (some payload) =>
      match awaitReply patience (s.send Opcode.publicCall payload) with
      | none => none
      | some (reply, s) => some (replyValue reply, s.noteSilence name reply)

end HostLink.Session
