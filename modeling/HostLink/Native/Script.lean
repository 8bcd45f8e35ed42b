import HostLink.Callback.Param
import HostLink.Fault

/-!
# HostLink.Native.Script

Natives, the functions of the host that a runtime may invoke. Arguments and results are bytes. A
native runs inside the session that invokes it, may change the state `η` of its host, and may ask
things of the handle to that session before it answers. What it is told is for the handle to say; a
session by itself, without a handle, refuses everything (`Script.refuse`).
-/

namespace HostLink.Native

open Callback (Param)

/-- What can be asked of the handle to a session. -/
inductive Request where
  | tick
  | call (caller : UInt16) (name : String) (params : List Param)
  | terminate (context : String)
  | inspect
  deriving DecidableEq, Repr

namespace Request

/-- What is answered to a request: whether a tick was made, the value of a call, nothing, or
whether a runtime is connected, if that could be found out. -/
abbrev Answer : Request → Type
  | .tick => Bool
  | .call .. => Option Int32
  | .terminate _ => Unit
  | .inspect => Option Bool

def refusal : (q : Request) → q.Answer
  | .tick => false
  | .call .. => none
  | .terminate _ => ()
  | .inspect => none

end Request

/-- A run of a native: requests, and at the end the result. With each the native leaves the host's
state as it is then, and after a request it goes on from the answer and the state that it finds. -/
inductive Script (η : Type) where
  | done (result : Except Fault Bytes) (host : η)
  | ask (q : Request) (host : η) (next : q.Answer → η → Script η)

/-- What a script comes to, and what it asked for in order. -/
structure Outcome (η : Type) where
  asked : List Request
  result : Except Fault Bytes
  host : η

/-- Runs a script whose every request is refused. -/
def Script.refuse {η : Type} : Script η → Outcome η
  | .done result host => ⟨[], result, host⟩
  | .ask q host next =>
    let o := (next q.refusal host).refuse
    { o with asked := q :: o.asked }

end HostLink.Native

namespace HostLink

/-- A function of the host: from arguments and the host's state to a run. -/
abbrev Native (η : Type) := Bytes → η → Native.Script η

/-- What a session needs of its host. Either operation may change the host's state, so that a name
may be known at one time and not at another. -/
class Host (η : Type) where
  findNative : String → η → Option (Native η) × η
  execCommand : String → η → η

end HostLink
