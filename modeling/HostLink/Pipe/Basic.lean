import HostLink.Channel
import HostLink.Frame.Buffer
import HostLink.Pipe.Sockets

/-!
# HostLink.Pipe.Basic

The channel over a local socket. The host listens and the runtime connects. A chunk may complete
several frames, so those not returned yet wait in line, and what is left of a frame waits in the
buffer; both are emptied when the stream is closed, so that nothing passes from one connection to
the next.
-/

namespace HostLink

/-- A pipe over the sockets `σ`. -/
structure Pipe (σ : Type) where
  sockets : σ
  listening : Bool
  streaming : Bool
  buffer : Frame.Buffer
  /-- Frames received and not returned yet, first come first. -/
  pending : List Frame

namespace Pipe

variable {σ : Type} [Sockets σ]

/-- A pipe that does not listen yet; larger payloads than `max` are not accepted. -/
def make (max : UInt32) (sockets : σ) : Pipe σ :=
  ⟨sockets, false, false, .empty max, []⟩

def closeStream (p : Pipe σ) : Pipe σ :=
  { p with
    sockets := if p.streaming then Sockets.close p.sockets else p.sockets
    streaming := false
    buffer := p.buffer.clear
    pending := [] }

/-- Opens the listener unless it is open. -/
def setup (p : Pipe σ) : Except Fault Unit × Pipe σ :=
  if p.listening then (.ok (), p)
  else
    match Sockets.bind p.sockets with
    | (.ok (), sockets) => (.ok (), { p with sockets := sockets, listening := true })
    | (.error e, sockets) => (.error e, { p with sockets := sockets })

/-- Opens a stream to the next peer unless one is open. -/
def connect (p : Pipe σ) : Except Fault Bool × Pipe σ :=
  if p.streaming then (.ok true, p)
  else if !p.listening then (.error .connectionClosed, p)
  else
    match Sockets.accept p.sockets with
    | (.ok came, sockets) => (.ok came, { p with sockets := sockets, streaming := came })
    | (.error e, sockets) => (.error e, { p with sockets := sockets })

/-- Sends a frame; when that fails the stream is closed. -/
def send (f : Frame) (p : Pipe σ) : Except Fault Unit × Pipe σ :=
  if !p.streaming then (.error .connectionClosed, p)
  else
    match Sockets.write f.encode p.sockets with
    | (true, sockets) => (.ok (), { p with sockets := sockets })
    | (false, sockets) => (.error .io, { p with sockets := sockets }.closeStream)

/-- The first frame in line. -/
def next (p : Pipe σ) : Received × Pipe σ :=
  match p.pending with
  | f :: rest => (.frame f, { p with pending := rest })
  | [] => (.nothing, p)

/-- Takes in a chunk; an oversized frame closes the stream. -/
def take (chunk : Bytes) (p : Pipe σ) : Received × Pipe σ :=
  match p.buffer.push chunk with
  | (.ok frames, buffer) => { p with buffer := buffer, pending := p.pending ++ frames }.next
  | (.error _, buffer) => (.dead, { p with buffer := buffer }.closeStream)

/-- Receives a frame: the first in line, or else what one read of the stream completes. -/
def receive (p : Pipe σ) : Received × Pipe σ :=
  match p.pending with
  | f :: rest => (.frame f, { p with pending := rest })
  | [] =>
    if !p.streaming then (.dead, p)
    else
      match Sockets.read p.sockets with
      | (.idle, sockets) => (.nothing, { p with sockets := sockets })
      | (.ended, sockets) => (.dead, { p with sockets := sockets }.closeStream)
      | (.failed, sockets) => (.dead, { p with sockets := sockets }.closeStream)
      | (.chunk bytes, sockets) => { p with sockets := sockets }.take bytes

def disconnect (p : Pipe σ) : Pipe σ :=
  let p := p.closeStream
  { p with
    sockets := if p.listening then Sockets.unbind p.sockets else p.sockets
    listening := false }

instance : Channel (Pipe σ) where
  setup := setup
  isReady := listening
  connect := connect
  isConnected := streaming
  send := send
  receive := receive
  disconnect := disconnect
  now p := Sockets.now p.sockets

end Pipe

end HostLink
