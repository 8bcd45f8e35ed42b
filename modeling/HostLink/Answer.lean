import HostLink.Cell.Reader
import HostLink.Cell.Writer

/-!
# HostLink.Answer

Answers: the host's to a lookup of a native, and the runtime's to a call.

* `LookupAnswer.encode` — the caller, then the handle, with -1 for none.
* `CallAnswer.decode?` — a flag, then a value that counts only when it is whole and the flag set.
-/

namespace HostLink

/-- The answer to a lookup. -/
structure LookupAnswer where
  caller : UInt16
  handle : Option Int32
  deriving DecidableEq, Repr

namespace LookupAnswer

/-- The handle sent when there is no native. -/
def noHandle : Int32 := -1

def encode (r : LookupAnswer) : Except Fault Bytes :=
  match (Cell.Writer.empty 6).putAll
      [.ok (.u16 r.caller), .ok (.cell (r.handle.getD noHandle))] with
  | (.ok (), w) => .ok w.bytes
  | (.error e, _) => .error e

end LookupAnswer

/-- The answer to a call, with the value if the handler gave one. -/
structure CallAnswer where
  value : Option Int32
  deriving DecidableEq, Repr

namespace CallAnswer

/-- The answer that a payload is; an empty one is none. -/
def decode? : Bytes → Option CallAnswer
  | [] => none
  | flag :: rest =>
    match Cell.Read.cell rest with
    | .ok (value, _) => if flag = 0 then some ⟨none⟩ else some ⟨some value⟩
    | .error _ => some ⟨none⟩

end CallAnswer

end HostLink
