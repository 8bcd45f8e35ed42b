import HostLink.Fault

/-!
# HostLink.Frame.Basic

Frames, the unit of the link: an opcode and a payload. On the wire a frame is a five-byte header,
the opcode and the payload's length as a little-endian word, followed by the payload.

* `Opcode`      — the opcodes that have a meaning.
* `Frame.encode` — a frame's bytes.
* `Header.decode` — the header at the front of a byte string.
-/

namespace HostLink

namespace Opcode

/-! Sent by the runtime. -/

def ping : UInt8 := 0x01
def print : UInt8 := 0x02
def response : UInt8 := 0x03
def reconnect : UInt8 := 0x04
def registerCall : UInt8 := 0x05
def findNative : UInt8 := 0x06
def invokeNative : UInt8 := 0x07
def start : UInt8 := 0x08
def disconnect : UInt8 := 0x09
def alive : UInt8 := 0x10

/-! Sent by the host. -/

def tick : UInt8 := 0x11
def pong : UInt8 := 0x12
def publicCall : UInt8 := 0x13
def reply : UInt8 := 0x14
def announce : UInt8 := 0x15

def isFromHost (opcode : UInt8) : Bool :=
  decide (tick ≤ opcode) && decide (opcode ≤ announce)

end Opcode

/-- What stands in front of a payload. -/
structure Header where
  opcode : UInt8
  length : UInt32
  deriving DecidableEq, Repr

namespace Header

def size : Nat := 5

def encode (h : Header) : Bytes :=
  h.opcode :: Bytes.ofU32 h.length

/-- The header at the front of the bytes, when there are enough of them. -/
def decode : Bytes → Option (Header × Bytes)
  | op :: a :: b :: c :: d :: rest => some (⟨op, Bytes.toU32 a b c d⟩, rest)
  | _ => none

/-- Refuses a header that announces more than `max` bytes. -/
def validate (max : UInt32) (h : Header) : Except Fault Unit :=
  if max < h.length then .error (.payloadTooLarge h.length.toNat max.toNat) else .ok ()

end Header

/-- An opcode and its payload. -/
structure Frame where
  opcode : UInt8
  payload : Bytes
  deriving DecidableEq, Repr

namespace Frame

/-- A frame without a payload. -/
def empty (opcode : UInt8) : Frame := ⟨opcode, []⟩

/-- The header of a frame; the length is taken modulo 2^32. -/
def header (f : Frame) : Header :=
  ⟨f.opcode, UInt32.ofNat f.payload.length⟩

def encode (f : Frame) : Bytes :=
  f.header.encode ++ f.payload

end Frame

end HostLink
