import HostLink.Json.Printer
import HostLink.Native.Script

/-!
# HostLink.Scripted.Catalog

A host made of a list of simple natives, to try a session out without a server.
-/

namespace HostLink.Scripted

/-- What a native does. -/
inductive Behaviour where
  | echo
  /-- Returns its arguments, last byte first. -/
  | reverse
  | count
  /-- Returns the same bytes always. -/
  | constant (bytes : Bytes)
  /-- Fails in the given words. -/
  | fail (text : String)
  /-- Asks the session's handle for something and returns the answer as a text. -/
  | ask (q : Native.Request)
  deriving DecidableEq, Repr

/-- A list of natives by name. -/
structure Catalog where
  natives : List (String × Behaviour)
  deriving DecidableEq, Repr

def answerJson : (q : Native.Request) → q.Answer → Json
  | .tick, ran => .bool ran
  | .call .., none => .null
  | .call .., some value => .ofInt value.toInt
  | .terminate _, _ => .null
  | .inspect, none => .null
  | .inspect, some connected => .bool connected

/-- The native that behaves so; it leaves the host alone. -/
def Behaviour.native : Behaviour → Native Catalog
  | .echo => fun args host => .done (.ok args) host
  | .reverse => fun args host => .done (.ok args.reverse) host
  | .count => fun args host => .done (.ok (Bytes.ofU32 (UInt32.ofNat args.length))) host
  | .constant bytes => fun _ host => .done (.ok bytes) host
  | .fail text => fun _ host => .done (.error (.protocol (.other text))) host
  | .ask q => fun _ host =>
    .ask q host fun answer host => .done (.ok (Utf8.encode (answerJson q answer).render)) host

instance : Host Catalog where
  findNative name host := ((host.natives.lookup name).map Behaviour.native, host)
  execCommand _ host := host

end HostLink.Scripted
