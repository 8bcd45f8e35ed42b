import HostLink.Fault

/-!
# HostLink.Cell.Reader

Reading fields off the front of a byte string. Each `Read` function gives the value and the bytes
after it, or a fault; a `Reader` keeps the bytes between reads, and a failed read leaves it as it
was (`Reader.take_error`).
-/

namespace HostLink.Cell

namespace Read

/-- The fault of a field that needs more bytes than there are. -/
def truncated (need : Nat) (shape : Shape) (bytes : Bytes) : Fault :=
  .protocol (.truncated need shape bytes.length)

def u8 : Bytes → Except Fault (UInt8 × Bytes)
  | a :: rest => .ok (a, rest)
  | bytes => .error (truncated 1 .u8 bytes)

def u16 : Bytes → Except Fault (UInt16 × Bytes)
  | a :: b :: rest => .ok (Bytes.toU16 a b, rest)
  | bytes => .error (truncated 2 .u16 bytes)

/-- Four bytes as a word, asked for as a field of the given shape. -/
def word (shape : Shape) : Bytes → Except Fault (UInt32 × Bytes)
  | a :: b :: c :: d :: rest => .ok (Bytes.toU32 a b c d, rest)
  | bytes => .error (truncated 4 shape bytes)

def u32 (bytes : Bytes) : Except Fault (UInt32 × Bytes) :=
  word .u32 bytes

def cell (bytes : Bytes) : Except Fault (Int32 × Bytes) :=
  match word .cell bytes with
  | .ok (w, rest) => .ok (w.toInt32, rest)
  | .error e => .error e

/-- The bits of a number. -/
def float (bytes : Bytes) : Except Fault (UInt32 × Bytes) :=
  word .float bytes

/-- A text up to its NUL, which is consumed; without a NUL the text runs to the end. -/
def text (bytes : Bytes) : Except Fault (String × Bytes) :=
  match Bytes.splitNul bytes with
  | (front, rest) =>
    match Utf8.decode front with
    | .ok t => .ok (t, rest)
    | .error e => .error (.protocol (.notUtf8 e))

/-- A field of the given shape. -/
def field : Shape → Bytes → Except Fault (Field × Bytes)
  | .u8, bytes => (u8 bytes).map fun (v, rest) => (.u8 v, rest)
  | .u16, bytes => (u16 bytes).map fun (v, rest) => (.u16 v, rest)
  | .u32, bytes => (u32 bytes).map fun (v, rest) => (.u32 v, rest)
  | .cell, bytes => (cell bytes).map fun (v, rest) => (.cell v, rest)
  | .float, bytes => (float bytes).map fun (v, rest) => (.float v, rest)
  | .text, bytes => (text bytes).map fun (v, rest) => (.text v, rest)

end Read

/-- A position in a byte string: the bytes not read yet. -/
structure Reader where
  bytes : Bytes
  deriving DecidableEq, Repr

namespace Reader

def remaining (r : Reader) : Nat := r.bytes.length

def isEmpty (r : Reader) : Bool := r.bytes.isEmpty

/-- Reads a field of the given shape. -/
def take (shape : Shape) (r : Reader) : Except Fault Field × Reader :=
  match Read.field shape r.bytes with
  | .ok (f, rest) => (.ok f, ⟨rest⟩)
  | .error e => (.error e, r)

/-- Takes everything that is left. -/
def takeRest (r : Reader) : Bytes × Reader := (r.bytes, ⟨[]⟩)

/-- A read that fails consumes nothing. -/
theorem take_error {shape : Shape} {r r' : Reader} {e : Fault}
    (h : r.take shape = (.error e, r')) : r' = r := by
  unfold take at h
  split at h <;> cases h
  rfl

end Reader

end HostLink.Cell
