import HostLink.Text.Utf8

/-!
# HostLink.Cell.Field

The fields that payloads are made of. A script runtime computes in 32-bit cells, names its callers
by 16-bit numbers and ends its texts with a NUL; all words are little endian.

* `Shape` — what kind of field to expect.
* `Field` — a field with its value; `Field.encode` gives its bytes.
-/

namespace HostLink.Cell

/-- The kinds of field that can be read. -/
inductive Shape where
  | u8
  | u16
  | u32
  | cell
  /-- A cell holding the bits of a single-precision number. -/
  | float
  | text
  deriving DecidableEq, Repr

def Shape.name : Shape → String
  | .u8 => "u8"
  | .u16 => "u16"
  | .u32 => "u32"
  | .cell => "cell"
  | .float => "float cell"
  | .text => "text"

/-- A field and its value. -/
inductive Field where
  | u8 (value : UInt8)
  | u16 (value : UInt16)
  | u32 (value : UInt32)
  | cell (value : Int32)
  /-- A number given by its bits, so that every NaN keeps its own. -/
  | float (bits : UInt32)
  | text (value : String)
  /-- Bytes without a structure of their own. -/
  | raw (bytes : Bytes)
  deriving DecidableEq, Repr

namespace Field

def encode : Field → Bytes
  | .u8 v => [v]
  | .u16 v => Bytes.ofU16 v
  | .u32 v => Bytes.ofU32 v
  | .cell v => Bytes.ofU32 v.toUInt32
  | .float bits => Bytes.ofU32 bits
  | .text t => Utf8.encode t ++ [0]
  | .raw bytes => bytes

/-- The kind of a field, if it can be read back. -/
def shape? : Field → Option Shape
  | .u8 _ => some .u8
  | .u16 _ => some .u16
  | .u32 _ => some .u32
  | .cell _ => some .cell
  | .float _ => some .float
  | .text _ => some .text
  | .raw _ => none

end Field

end HostLink.Cell
