import HostLink.Cell.Reader

/-!
# HostLink.Native.Result

The result of a native, read as a cell, a number or a truth value.
-/

namespace HostLink.Native

/-- The bytes that a native returned. -/
structure Result where
  bytes : Bytes
  deriving DecidableEq, Repr

namespace Result

/-- The first cell. -/
def asCell (r : Result) : Except Fault Int32 :=
  (Cell.Read.cell r.bytes).map Prod.fst

/-- The bits of the number in the first cell. -/
def asFloat (r : Result) : Except Fault UInt32 :=
  (Cell.Read.float r.bytes).map Prod.fst

/-- Whether the first cell is not zero. -/
def asBool (r : Result) : Except Fault Bool :=
  r.asCell.map fun v => decide (v ≠ 0)

end Result

end HostLink.Native
