/-!
# HostLink.Callback.Kind

The kinds of parameter that a callback may declare.
-/

namespace HostLink.Callback

/-- Kind of a declared parameter. -/
inductive Kind where
  | value
  /-- An array of cells whose length is the value of the parameter at `lengthParam`. -/
  | array (lengthParam : UInt32)
  | text
  deriving DecidableEq, Repr

def Kind.describe : Kind → String
  | .value => "Value"
  | .array lengthParam =>
    "Array \x7b length_param: " ++ toString lengthParam.toNat ++ " \x7d"
  | .text => "Str"

end HostLink.Callback
