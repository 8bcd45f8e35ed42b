import HostLink.Frame.Basic

/-!
# HostLink.Channel

What a session needs of the channel to its runtime: it can be made ready, let a peer in, carry
frames both ways and be closed. Waiting on a channel is what makes time pass, so it tells the time
too.
-/

namespace HostLink

/-- What came of an attempt to receive. -/
inductive Received where
  | frame (f : Frame)
  /-- Nothing has come yet. -/
  | nothing
  | dead
  deriving DecidableEq, Repr

/-- A channel that carries frames to and from one peer at a time. -/
class Channel (κ : Type) where
  setup : κ → Except Fault Unit × κ
  isReady : κ → Bool
  /-- Lets a peer in; tells whether one came. -/
  connect : κ → Except Fault Bool × κ
  isConnected : κ → Bool
  send : Frame → κ → Except Fault Unit × κ
  /-- Receives at most one frame. -/
  receive : κ → Received × κ
  disconnect : κ → κ
  /-- The time in milliseconds. -/
  now : κ → Int

end HostLink
