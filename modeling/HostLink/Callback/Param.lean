import HostLink.Bytes

/-!
# HostLink.Callback.Param

The parameters that a host passes to a callback.
-/

namespace HostLink.Callback

/-- A parameter. -/
inductive Param where
  | int (value : Int32)
  /-- A single-precision number given by its bits. -/
  | float (bits : UInt32)
  | bool (value : Bool)
  | text (value : String)
  | array (cells : List Int32)
  deriving DecidableEq, Repr

/-- The cell that a parameter fits, if it fits one. -/
def Param.cell? : Param → Option Int32
  | .int v => some v
  | .float bits => some bits.toInt32
  | .bool b => some (if b then 1 else 0)
  | .text _ => none
  | .array _ => none

end HostLink.Callback
