import HostLink.Session.Drive

/-!
# HostLink.Handle

The handle that a host's parts share to reach the one session. It lends the session to whoever wants
something done, and until the session is back whoever turns to the handle is refused, because two
round trips cannot be interleaved on one channel. The session bears the mark that it is lent out.
A native runs inside it and finds the handle accordingly (`Session.handle`): whatever it asks is
served as if from outside, which comes to nothing only because the mark is there.

* `Handle.lend`   — gives the session to one user at a time.
* `Handle.serve`  — one request; natives that run meanwhile turn to the same handle.
* `Handle.within` — a request made while the session is held.
-/

namespace HostLink

/-- The handle: it holds the session, or the session has been lent out. -/
inductive Handle (κ η : Type) where
  | free (s : Session κ η)
  | inUse

/-- What came of a request: the answer, what is to be noted elsewhere, and the handle after it. -/
structure Served (κ η : Type) (q : Native.Request) where
  answer : q.Answer
  notices : List Notice
  handle : Handle κ η

/-- Attends to requests at a handle; `none` when one comes to no end. -/
abbrev Attendant (κ η : Type) := (q : Native.Request) → Handle κ η → Option (Served κ η q)

variable {κ η : Type}

namespace Session

/-- The handle to a session as it is found from inside. -/
def handle (s : Session κ η) : Handle κ η := if s.lent then .inUse else .free s

/-- The session when something was done at its handle, which was left like this. -/
def resume (notices : List Notice) (s : Session κ η) : Handle κ η → Session κ η
  | .free t => t.noteAll notices
  | .inUse => s.noteAll notices

/-- Asks something of the session's handle from inside. -/
def turnTo (attendant : Attendant κ η) (q : Native.Request) (s : Session κ η) :
    Option (q.Answer × Session κ η) :=
  (attendant q s.handle).map fun served => (served.answer, s.resume served.notices served.handle)

/-- Runs a native inside a session; whatever it asks it asks of the session's handle. -/
def attend (attendant : Attendant κ η) :
    Native.Script η → Session κ η → Option (Except Fault Bytes × Session κ η)
  | .done result host, s => some (result, { s with host := host })
  | .ask q host next, s =>
    match { s with host := host }.turnTo attendant q with
    | none => none
    | some (answer, s) => attend attendant (next answer s.host) s

/-- Answers an invocation like a session by itself, except that the native has a handle to turn
to. -/
def attendInvocation [Channel κ] (attendant : Attendant κ η) (caller : UInt16) (request : Bytes)
    (s : Session κ η) : Option (Session κ η) :=
  let reply (result : Except Fault Nat) (w : Cell.Writer) (s : Session κ η) : Session κ η :=
    (s.note (invocationNotice request.length result)).send Opcode.reply w.bytes
  match (Cell.Writer.empty s.settings.maxPayloadSize.toNat).put (.u16 caller) with
  | .error e => some (s.note (.nativeReplyFailed e))
  | .ok w =>
    match s.natives.find request with
    | .error e => some (reply (.error e) w s)
    | .ok (native, args) =>
      match s.attend attendant (native args s.host) with
      | none => none
      | some (result, s) =>
        match Native.Table.append result w with
        | (appended, w) => some (reply appended w s)

/-- Natives turn to this attendant. -/
@[reducible] def Invoker.attending [Channel κ] (attendant : Attendant κ η) : Invoker κ η where
  answer := attendInvocation attendant

end Session

namespace Handle

/-- Lends the session to a user; `none` inside when it is lent out already. -/
def lend {α : Type} (user : Session κ η → Option (α × Session κ η)) :
    Handle κ η → Option (Option α × Handle κ η)
  | .inUse => some (none, .inUse)
  | .free s => (user (s.setLent true)).map fun r => (some r.1, .free (r.2.setLent false))

variable [Channel κ] [Host η]

/-- Serves a request on a session; `none` when the patience runs out. -/
def perform [Session.Invoker κ η] (patience : Nat) (s : Session κ η) :
    (q : Native.Request) → Option (q.Answer × Session κ η)
  | .tick => (s.tick patience).map fun s => (true, s)
  | .call caller name params => s.call patience caller name params
  | .terminate context => some ((), s.terminate context)
  | .inspect => some (some s.isConnected, s)

/-- Serves a request if the session is there, and refuses it otherwise. Natives that run meanwhile
turn to the given attendant. -/
def serveBy (attendant : Attendant κ η) (patience : Nat) : Attendant κ η := fun q h =>
  letI := Session.Invoker.attending attendant
  match h.lend fun s => perform patience s q with
  | none => none
  | some (none, h) => some ⟨q.refusal, Session.refusalNotices q, h⟩
  | some (some answer, h) => some ⟨answer, [], h⟩

/-- The attendant that natives turn to during a request: the handle itself, at any depth that the
patience allows. -/
def inner : Nat → Attendant κ η
  | 0 => serveBy (fun _ _ => none) 0
  | patience + 1 => serveBy (inner patience) (patience + 1)

def serve (patience : Nat) : Attendant κ η := serveBy (inner patience) patience

/-- Makes a request while holding the session; `none` inside when the session was not to be had. -/
def within (patience : Nat) (q : Native.Request) :
    Handle κ η → Option (Option q.Answer × Handle κ η) :=
  lend fun s => s.turnTo (serve patience) q

end Handle

end HostLink
