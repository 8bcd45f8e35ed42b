import HostLink.Cell.Field
import HostLink.Callback.Kind
import HostLink.Text.Quoted

/-!
# HostLink.Fault

Everything that can go wrong on the link, by cause. The wording stands in one place,
`Fault.message`, so no other module builds an error text.
-/

namespace HostLink

def describeCell? : Option Int32 → String
  | none => "None"
  | some v => "Some(" ++ toString v.toInt ++ ")"

/-- How bytes or texts can break the rules of the link. -/
inductive ProtocolFault where
  /-- A field of `need` bytes was due and only `available` were left. -/
  | truncated (need : Nat) (shape : Cell.Shape) (available : Nat)
  | notUtf8 (cause : Utf8.Malformed)
  | containsNul (text : String)
  /-- A callback was registered without a name. -/
  | emptyName
  | arrayOverrun (cells : Nat)
  /-- A call buffer goes on after its last parameter. -/
  | trailing (bytes : Nat) (name : String)
  /-- A fault in somebody else's words, such as a failing native's. -/
  | other (text : String)
  deriving DecidableEq, Repr

def ProtocolFault.message : ProtocolFault → String
  | .truncated need shape available =>
    "truncated payload: need " ++ toString need ++ " bytes for " ++ shape.name ++
      ", have " ++ toString available
  | .notUtf8 cause => "string is not UTF-8: " ++ cause.message
  | .containsNul text => "string " ++ Text.quoted text ++ " contains a NUL byte"
  | .emptyName => "callback name is empty"
  | .arrayOverrun cells => "array of " ++ toString cells ++ " cells overruns the buffer"
  | .trailing bytes name => toString bytes ++ " trailing bytes after call to " ++ name
  | .other text => text

/-- How a call or a registration can disagree with a signature. -/
inductive Mismatch where
  | tooManyParameters
  /-- A descriptor byte without a meaning. -/
  | unknownDescriptor (byte : UInt8)
  /-- An array names as its length a parameter that is no value. -/
  | lengthNotValue (lengthParam : UInt32)
  | wrongCount (expected got : Nat)
  /-- A parameter that does not fit a cell where a value is declared. -/
  | notValue (index : Nat)
  | lengthDisagrees (index cells : Nat) (declared : Option Int32)
  | wrongKind (index : Nat) (kind : Callback.Kind)
  | other (text : String)
  deriving DecidableEq, Repr

def Mismatch.message : Mismatch → String
  | .tooManyParameters => "too many parameters"
  | .unknownDescriptor byte => "unknown descriptor " ++ Text.hexByte byte
  | .lengthNotValue lengthParam =>
    "array length parameter " ++ toString lengthParam.toNat ++ " is not a value"
  | .wrongCount expected got =>
    "expected " ++ toString expected ++ " parameters, got " ++ toString got
  | .notValue index => "parameter " ++ toString index ++ " is not a value"
  | .lengthDisagrees index cells declared =>
    "array parameter " ++ toString index ++ " has " ++ toString cells ++
      " cells, length parameter says " ++ describeCell? declared
  | .wrongKind index kind => "parameter " ++ toString index ++ " should be " ++ kind.describe
  | .other text => text

/-- Why an operation failed. -/
inductive Fault where
  | io
  /-- A text does not describe settings. -/
  | json
  | protocol (cause : ProtocolFault)
  /-- A payload of `size` bytes where at most `max` are allowed. -/
  | payloadTooLarge (size max : Nat)
  | unknownCallback (name : String)
  | signatureMismatch (name : String) (reason : Mismatch)
  | nativeNotFound (handle : Int32)
  | connectionClosed
  deriving DecidableEq, Repr

def Fault.message : Fault → String
  | .io => "I/O error"
  | .json => "JSON error"
  | .protocol cause => "Protocol error: " ++ cause.message
  | .payloadTooLarge size max =>
    "Payload of " ++ toString size ++ " bytes exceeds maximum " ++ toString max
  | .unknownCallback name => "Callback not registered: " ++ name
  | .signatureMismatch name reason => "Signature mismatch for " ++ name ++ ": " ++ reason.message
  | .nativeNotFound handle => "No native for handle " ++ toString handle.toInt
  | .connectionClosed => "Connection closed"

end HostLink
