import HostLink.Pipe.Sockets

/-!
# HostLink.Pipe.Local

Sockets in memory, to try a pipe out. Peers wait in a queue until they are accepted; each has a
queue of bytes in either direction. What a peer wrote before it was accepted, or before it closed,
is still read.
-/

namespace HostLink.Pipe

/-- The most bytes that one read gives. -/
def readLimit : Nat := 65536

/-- A peer's end of a connection. -/
structure Peer where
  isOpen : Bool
  hungUp : Bool
  /-- Written by the peer and not read yet. -/
  toHost : Bytes
  /-- Written to the peer and not read yet. -/
  toPeer : Bytes
  deriving DecidableEq, Repr

def Peer.isClosed (p : Peer) : Bool := !p.isOpen || p.hungUp

/-- Sockets in memory. -/
structure Local where
  hasDir : Bool
  bound : Bool
  hasFile : Bool
  /-- Everybody who tried to connect, by number. -/
  peers : List Peer
  queue : List Nat
  current : Option Nat
  deriving DecidableEq, Repr

namespace Local

def initial (hasDir : Bool) : Local := ⟨hasDir, false, false, [], [], none⟩

/-- The peer of a number; one that never tried to connect is as good as gone. -/
def peer (i : Nat) (l : Local) : Peer := l.peers[i]?.getD ⟨false, true, [], []⟩

def modify (i : Nat) (f : Peer → Peer) (l : Local) : Local :=
  { l with peers := l.peers.modify i f }

def bind (l : Local) : Except Fault Unit × Local :=
  if l.hasDir then (.ok (), { l with bound := true, hasFile := false }) else (.error .io, l)

def unbind (l : Local) : Local :=
  let l := l.queue.foldl (fun l i => l.modify i fun p => { p with hungUp := true }) l
  { l with bound := false, queue := [] }

def accept (l : Local) : Except Fault Bool × Local :=
  match l.queue with
  | i :: queue => (.ok true, { l with queue := queue, current := some i })
  | [] => (.ok false, l)

def read (l : Local) : ReadOutcome × Local :=
  match l.current with
  | none => (.failed, l)
  | some i =>
    match (l.peer i).toHost with
    | [] => (if (l.peer i).isOpen then .idle else .ended, l)
    | bytes =>
      (.chunk (bytes.take readLimit), l.modify i fun p => { p with toHost := bytes.drop readLimit })

/-- Writes to the peer, unless it has closed its side. -/
def write (bytes : Bytes) (l : Local) : Bool × Local :=
  match l.current with
  | none => (false, l)
  | some i =>
    if (l.peer i).isOpen then
      (true, l.modify i fun p => { p with toPeer := p.toPeer ++ bytes })
    else (false, l)

def close (l : Local) : Local :=
  match l.current with
  | none => l
  | some i => { l.modify i fun p => { p with hungUp := true } with current := none }

/-- A file is put at the path, if nothing is there and the directory exists. -/
def putFile (l : Local) : Local :=
  if l.hasDir && !l.bound then { l with hasFile := true } else l

/-- Somebody tries to connect; tells whether anybody listens. -/
def peerConnect (l : Local) : Bool × Local :=
  (l.bound,
    { l with
      peers := l.peers ++ [⟨l.bound, !l.bound, [], []⟩]
      queue := if l.bound then l.queue ++ [l.peers.length] else l.queue })

/-- A peer writes; tells whether it could. -/
def peerSend (i : Nat) (bytes : Bytes) (l : Local) : Bool × Local :=
  if !(l.peer i).isClosed then
    (true, l.modify i fun p => { p with toHost := p.toHost ++ bytes })
  else (false, l)

def peerRead (i : Nat) (l : Local) : Bytes × Local :=
  ((l.peer i).toPeer, l.modify i fun p => { p with toPeer := [] })

/-- A peer closes its side and gives up what it has not read. -/
def peerClose (i : Nat) (l : Local) : Local :=
  l.modify i fun p => { p with isOpen := false, toPeer := [] }

instance : Sockets Local where
  bind := bind
  unbind := unbind
  accept := accept
  read := read
  write := write
  close := close
  now _ := 0

end Local

end HostLink.Pipe
