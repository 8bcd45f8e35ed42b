import HostLink.Channel

/-!
# HostLink.Scripted.Wire

A channel that plays a script, to try a session out without a runtime. Peers come in the order of a
queue, and each brings what it will send. Failures can be arranged for setups and sends. When
nothing is left to receive the connection goes silent for some attempts and then dies.

* `Wire.receive` — plays the inbound items up to the first that decides.
* `Wire.patience` — more than the attempts to receive that a script can last.
-/

namespace HostLink.Scripted

/-- Something that happens while receiving. -/
inductive Item where
  | frame (f : Frame)
  /-- Time passes, perhaps backwards. -/
  | advance (ms : Int)
  /-- Nothing has come. -/
  | nothing
  | dead
  /-- The connection is reported dead and yet stays. -/
  | deadKeep
  /-- The connection dies and nothing is reported. -/
  | vanish
  deriving DecidableEq, Repr

/-- Somebody at the door. -/
inductive Peer where
  | visit (items : List Item)
  | fail
  /-- Does not come in. -/
  | refuse
  deriving DecidableEq, Repr

/-- A scripted channel. -/
structure Wire where
  ready : Bool := false
  connected : Bool := false
  /-- Whether the connection dies as soon as nothing is left. -/
  dieWhenDrained : Bool := false
  sendDrop : Bool := false
  /-- How many attempts in a row may find nothing. -/
  idleLimit : Nat := 3
  idle : Nat := 0
  setupFail : Nat := 0
  sendFail : Nat := 0
  inbound : List Item := []
  peers : List Peer := []
  setups : Nat := 0
  disconnects : Nat := 0
  /-- The time, which only the script moves. -/
  clock : Int := 0
  frozen : Bool := false
  deriving DecidableEq, Repr

/-- What can be arranged on a channel; what is absent stays, and the queues grow. -/
structure Patch where
  connected : Option Bool := none
  ready : Option Bool := none
  dieWhenDrained : Option Bool := none
  sendDrop : Option Bool := none
  idleLimit : Option Nat := none
  setupFail : Option Nat := none
  sendFail : Option Nat := none
  inbound : List Item := []
  peers : List Peer := []
  deriving DecidableEq, Repr

namespace Wire

def apply (p : Patch) (w : Wire) : Wire :=
  { w with
    connected := p.connected.getD w.connected
    ready := p.ready.getD w.ready
    dieWhenDrained := p.dieWhenDrained.getD w.dieWhenDrained
    sendDrop := p.sendDrop.getD w.sendDrop
    idleLimit := p.idleLimit.getD w.idleLimit
    setupFail := p.setupFail.getD w.setupFail
    sendFail := p.sendFail.getD w.sendFail
    inbound := w.inbound ++ p.inbound
    peers := w.peers ++ p.peers }

def advance (ms : Int) (w : Wire) : Wire := { w with clock := w.clock + ms }

def scriptFault (text : String) : Fault := .protocol (.other text)

/-- Makes the channel ready unless a refusal is arranged. -/
def setup (w : Wire) : Except Fault Unit × Wire :=
  match w.setupFail with
  | n + 1 =>
    (.error (scriptFault "setup refused"), { w with setups := w.setups + 1, setupFail := n })
  | 0 => (.ok (), { w with setups := w.setups + 1, ready := true })

def connect (w : Wire) : Except Fault Bool × Wire :=
  if !w.ready then (.error .connectionClosed, w)
  else
    match w.peers with
    | [] => (.ok false, w)
    | .visit items :: peers =>
      (.ok true,
        { w with peers := peers, inbound := w.inbound ++ items, connected := true, idle := 0 })
    | .fail :: peers => (.error (scriptFault "connect refused"), { w with peers := peers })
    | .refuse :: peers => (.ok false, { w with peers := peers })

/-- Takes a frame away unless a refusal is arranged. -/
def send (_ : Frame) (w : Wire) : Except Fault Unit × Wire :=
  if !w.connected then (.error .connectionClosed, w)
  else
    match w.sendFail with
    | n + 1 =>
      (.error (scriptFault "send refused"),
        { w with sendFail := n, connected := !w.sendDrop })
    | 0 => (.ok (), w)

/-- What an attempt finds when nothing is left. -/
def receiveDrained (w : Wire) : Received × Wire :=
  if w.dieWhenDrained || decide (w.idleLimit < w.idle + 1) then
    (.dead, { w with idle := w.idle + 1, connected := false })
  else (.nothing, { w with idle := w.idle + 1 })

/-- Plays items up to the first that decides. -/
def play (w : Wire) : List Item → Received × Wire
  | [] => { w with inbound := [] }.receiveDrained
  | .advance ms :: rest => ({ w with idle := 0, clock := w.clock + ms }).play rest
  | .frame f :: rest => (.frame f, { w with idle := 0, inbound := rest })
  | .nothing :: rest => (.nothing, { w with idle := 0, inbound := rest })
  | .dead :: rest => (.dead, { w with idle := 0, inbound := rest, connected := false })
  | .deadKeep :: rest => (.dead, { w with idle := 0, inbound := rest })
  | .vanish :: rest => (.nothing, { w with idle := 0, inbound := rest, connected := false })

def receive (w : Wire) : Received × Wire :=
  if w.connected then w.play w.inbound else (.dead, w)

def disconnect (w : Wire) : Wire :=
  { w with connected := false, ready := false, inbound := [], disconnects := w.disconnects + 1 }

def now (w : Wire) : Int := if w.frozen then 0 else w.clock

/-- How many peers there are, together with all the items that they bring. -/
def queueWeight : List Peer → Nat
  | [] => 0
  | .visit items :: peers => items.length + 1 + queueWeight peers
  | .fail :: peers => 1 + queueWeight peers
  | .refuse :: peers => 1 + queueWeight peers

/-- More than the attempts to receive that the script can last: after each item and each peer there
may be as many idle attempts as the limit allows. -/
def patience (w : Wire) : Nat :=
  (w.inbound.length + queueWeight w.peers + 2) * (w.idleLimit + 3)

end Wire

instance : Channel Wire where
  setup := Wire.setup
  isReady := Wire.ready
  connect := Wire.connect
  isConnected := Wire.connected
  send := Wire.send
  receive := Wire.receive
  disconnect := Wire.disconnect
  now := Wire.now

end HostLink.Scripted
