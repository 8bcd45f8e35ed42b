/-!
# HostLink.Status

Where a session stands with its runtime: whether the link is up, what has been seen of the start
of either script, and what the runtime has announced. Each event is one function on `Status`.

* `Status.state`   — the name of a combination.
* `Status.allows` — which operations a combination allows.
* `Status.cause`   — how the end of a connection is judged.
-/

namespace HostLink

/-- Whether a runtime is attached. -/
inductive Link where
  | down
  | up
  deriving DecidableEq, Repr

/-- What the runtime has announced. -/
inductive Intent where
  | none
  | reconnecting
  | disconnecting
  deriving DecidableEq, Repr

/-- The names of the combinations. -/
inductive State where
  | disconnected
  | awaitingStart
  /-- Started, and the init callback not delivered yet. -/
  | awaitingInit
  | initialized
  | reconnecting
  | disconnecting
  deriving DecidableEq, Repr

/-- What a session does of its own accord. -/
inductive Operation where
  | heartbeat
  | call
  deriving DecidableEq, Repr

/-- Why a connection ended. -/
inductive Cause where
  /-- It was asked for, so what the runtime registered is kept. -/
  | expected
  /-- The runtime had announced it. -/
  | declared
  | unexpected
  deriving DecidableEq, Repr

def Cause.clearsTables : Cause → Bool
  | .expected => false
  | .declared => true
  | .unexpected => true

/-- Where a session stands. -/
structure Status where
  link : Link
  started : Bool
  clientInit : Bool
  hostInit : Bool
  intent : Intent
  deriving DecidableEq, Repr

namespace Status

def initial : Status := ⟨.down, false, false, false, .none⟩

def isUp (s : Status) : Bool := s.link = .up

def state (s : Status) : State :=
  match s.link, s.intent with
  | _, .reconnecting => .reconnecting
  | .down, _ => .disconnected
  | .up, .disconnecting => .disconnecting
  | .up, .none =>
    if !s.started then .awaitingStart
    else if !s.clientInit then .awaitingInit
    else .initialized

/-- Whether the runtime is there, has started and has announced nothing. -/
def isLive (s : Status) : Bool :=
  s.isUp && s.started && decide (s.intent = .none)

def allows (s : Status) : Operation → Bool
  | .heartbeat => s.isLive && s.clientInit
  | .call => s.isLive

def cause (expected : Bool) (s : Status) : Cause :=
  if expected then .expected
  else if s.intent = .disconnecting then .declared
  else .unexpected

def isReturning (s : Status) : Bool := s.intent = .reconnecting

/-- A runtime has connected; an announced reconnect is thereby done. -/
def connected (s : Status) : Status :=
  if s.isReturning then { s with link := .up, intent := .none } else { s with link := .up }

def disconnected (cause : Cause) (s : Status) : Status :=
  match cause with
  | .expected => { s with link := .down }
  | .declared => { s with link := .down, started := false, intent := .none }
  | .unexpected => { s with link := .down, started := false }

def remoteStarted (s : Status) : Status := { s with started := true }

def reconnectRequested (s : Status) : Status := { s with intent := .reconnecting }

def disconnectRequested (s : Status) : Status := { s with intent := .disconnecting }

def hostStarted (s : Status) : Status := { s with hostInit := true }

def hostEnded (s : Status) : Status := { s with hostInit := false }

def initDelivered (s : Status) : Status := { s with clientInit := true }

end Status

end HostLink
