import HostLink.Cell.Reader
import HostLink.Frame.Basic

/-!
# HostLink.Command

The commands of the runtime. `Command.decode` is the table of opcodes: a frame whose opcode is in
it becomes a command, or is malformed; any other frame is no command, and the session takes it for
the answer to a call.
-/

namespace HostLink

/-- How the runtime wants its start to be finished. -/
inductive StartMode where
  /-- Nothing to do; the host's own start will come. -/
  | waitForHost
  | restart
  | deliverInit
  /-- A mode that means nothing. -/
  | unknown (mode : UInt8)
  deriving DecidableEq, Repr

def StartMode.ofByte (b : UInt8) : StartMode :=
  if b = 0 then .waitForHost
  else if b = 1 then .restart
  else if b = 2 then .deliverInit
  else .unknown b

/-- A command of the runtime. -/
inductive Command where
  | ping
  | print (text : String)
  | reconnect
  /-- A callback's name and parameter descriptors, not read yet. -/
  | registerCall (record : Bytes)
  | findNative (caller : UInt16) (name : String)
  /-- The handle of a native and its arguments, not read yet. -/
  | invokeNative (caller : UInt16) (request : Bytes)
  | start (mode : StartMode)
  | disconnect
  | alive
  deriving DecidableEq, Repr

namespace Command

/-- A lookup: the caller, then the name. -/
def decodeFindNative (payload : Bytes) : Except Fault Command :=
  match Cell.Read.u16 payload with
  | .error e => .error e
  | .ok (caller, rest) =>
    match Cell.Read.text rest with
    | .error e => .error e
    | .ok (name, _) => .ok (.findNative caller name)

/-- An invocation: the caller, then the request. -/
def decodeInvokeNative (payload : Bytes) : Except Fault Command :=
  match Cell.Read.u16 payload with
  | .error e => .error e
  | .ok (caller, request) => .ok (.invokeNative caller request)

/-- A start: the mode in the first byte, which may be left out. -/
def decodeStart : Bytes → Command
  | [] => .start .waitForHost
  | b :: _ => .start (.ofByte b)

/-- The command that a frame is; `none` when its opcode is not in the table. -/
def decode (f : Frame) : Except Fault (Option Command) :=
  if f.opcode = Opcode.ping then .ok (some .ping)
  else if f.opcode = Opcode.print then
    .ok (some (.print (Utf8.lossy (Bytes.splitNul f.payload).1)))
  else if f.opcode = Opcode.reconnect then .ok (some .reconnect)
  else if f.opcode = Opcode.registerCall then .ok (some (.registerCall f.payload))
  else if f.opcode = Opcode.findNative then (decodeFindNative f.payload).map some
  else if f.opcode = Opcode.invokeNative then (decodeInvokeNative f.payload).map some
  else if f.opcode = Opcode.start then .ok (some (decodeStart f.payload))
  else if f.opcode = Opcode.disconnect then .ok (some .disconnect)
  else if f.opcode = Opcode.alive then .ok (some .alive)
  else .ok none

end Command

end HostLink
