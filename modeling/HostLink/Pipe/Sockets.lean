import HostLink.Fault

/-!
# HostLink.Pipe.Sockets

What a pipe needs of the system: a listener at a path, and one stream at a time from it.
-/

namespace HostLink.Pipe

/-- What came of reading a stream. -/
inductive ReadOutcome where
  /-- Bytes, at least one. -/
  | chunk (bytes : Bytes)
  /-- Nothing has come in time. -/
  | idle
  | ended
  | failed
  deriving DecidableEq, Repr

/-- The sockets of the system. -/
class Sockets (σ : Type) where
  /-- Opens the listener, in the place of a file that is there already. -/
  bind : σ → Except Fault Unit × σ
  unbind : σ → σ
  /-- Opens a stream to the next peer; tells whether there was one in time. -/
  accept : σ → Except Fault Bool × σ
  /-- Reads what has come on the stream, up to a limit. -/
  read : σ → ReadOutcome × σ
  /-- Writes all the bytes to the stream; tells whether it could. -/
  write : Bytes → σ → Bool × σ
  close : σ → σ
  /-- The time in milliseconds. -/
  now : σ → Int

end HostLink.Pipe
