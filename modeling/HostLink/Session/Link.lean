import HostLink.Session.Basic

/-!
# HostLink.Session.Link

Coming and going of the runtime.

* `Session.make`       — a new session, whose channel is made ready.
* `Session.connect`    — lets a runtime in and announces the host to it.
* `Session.disconnect` — ends the connection and makes the channel ready for the next.
* `Session.send`       — sends a frame; a refusal is noted, and shows at the next receive.
-/

namespace HostLink.Session

variable {κ η : Type} [Channel κ]

/-- Asks the channel to make itself ready; a refusal is noted as `failed` says. -/
def setUp (failed : Fault → Notice) (s : Session κ η) : Bool × Session κ η :=
  match Channel.setup s.channel with
  | (.ok (), c) => (true, { s with channel := c }.record .setUp)
  | (.error e, c) => (false, ({ s with channel := c }.record .setUp).note (failed e))

def make (settings : SessionSettings) (listener : Listener) (channel : κ) (host : η) :
    Session κ η :=
  let s : Session κ η :=
    { settings, channel, host
      status := .initial
      natives := .empty
      callbacks := .empty
      detector := .initial settings.pause
      holding := .initial listener
      delivering := false
      lent := false
      past := [] }
  ((s.signal .starting).setUp .firstSetupFailed).2

def send (opcode : UInt8) (payload : Bytes) (s : Session κ η) : Session κ η :=
  match Channel.send ⟨opcode, payload⟩ s.channel with
  | (.ok (), c) => { s with channel := c }.record (.sent ⟨opcode, payload⟩ s.status)
  | (.error e, c) =>
    ({ s with channel := c }.record (.unsent ⟨opcode, payload⟩ s.status)).note
      (.sendFailed opcode e)

/-- Announces the host to a runtime that has just connected. -/
def announce (s : Session κ η) : Session κ η :=
  let announcement := Announcement.ofSettings s.settings
  let s := s.noteAll (Announcement.notices s.settings)
  match announcement.encode with
  | .error e => s.note (.announceFailed e)
  | .ok payload =>
    ((s.send Opcode.announce payload).note .announced).note (.greeting announcement.workingDir)

def welcome (s : Session κ η) : Session κ η :=
  let again := s.status.isReturning
  let s := s.signal .connected
  ({ s with status := s.status.connected }.note (.clientConnected again)).announce

/-- Makes the channel ready unless it is. -/
def prepare (s : Session κ η) : Bool × Session κ η :=
  if Channel.isReady s.channel then (true, s) else s.setUp .setupFailed

/-- Lets a runtime in unless one is connected; tells whether one is. -/
def connect (s : Session κ η) : Bool × Session κ η :=
  if Channel.isConnected s.channel then (true, s)
  else
    match s.prepare with
    | (false, s) => (false, s)
    | (true, s) =>
      match Channel.connect s.channel with
      | (.ok true, c) => (true, ({ s with channel := c }.record (.letIn s.memory)).welcome)
      | (.ok false, c) => (false, { s with channel := c })
      | (.error e, c) => (false, { s with channel := c }.note (.connectFailed e))

def farewell (cause : Cause) (context : Option String) (s : Session κ η) : Session κ η :=
  match cause with
  | .expected => (s.note .clientDisconnected).signal .disconnected
  | .declared => (s.note .clientDisconnected).signal .disconnected
  | .unexpected => (s.note (.clientLost (context.getD ""))).signal .error

/-- Forgets what the runtime registered and looked up, if the cause asks for it. -/
def forget (cause : Cause) (s : Session κ η) : Session κ η :=
  if cause.clearsTables then { s with natives := .empty, callbacks := .empty } else s

/-- Closes the channel and makes it ready again; `kept` was remembered before the end. -/
def renewChannel (cause : Cause) (kept : Memory η) (s : Session κ η) : Session κ η :=
  (({ s with channel := Channel.disconnect s.channel }.record (.hungUp cause kept)).setUp
    .renewalFailed).2

/-- Ends the connection; nothing happens while the link is down. -/
def disconnect (context : Option String) (expected : Bool) (s : Session κ η) : Session κ η :=
  if s.status.isUp then
    let cause := s.status.cause expected
    let t := ((s.farewell cause context).forget cause).renewChannel cause s.memory
    { t with status := t.status.disconnected cause }
  else s

/-- Ends the connection without notice. -/
def terminate (context : String) (s : Session κ η) : Session κ η :=
  s.disconnect (some context) false

/-- The channel when the session is given up. -/
def close (s : Session κ η) : κ := Channel.disconnect s.channel

end HostLink.Session
