import HostLink.Answer
import HostLink.Session.Link

/-!
# HostLink.Session.Serve

What a session does about a frame. Most commands are served at once. A start that asks for the init
callback is not: the session calls it and waits for the answer, and while it waits other frames are
served in the same way. That wait is a parameter here, `await`, and `none` stands for a wait that
was given up. How invocations are answered is a parameter too (`Invoker`): a session by itself runs
a native and refuses whatever it asks.
-/

namespace HostLink.Session

variable {κ η : Type} [Channel κ] [Host η]

/-- A wait for an answer: its payload, or nothing if the connection ended first. -/
abbrev Wait (κ η : Type) := Session κ η → Option (Option Bytes × Session κ η)

/-- What came of one attempt to receive and serve a frame. -/
inductive Step where
  | served
  /-- A frame that is no command came: an answer with this payload. -/
  | answer (payload : Bytes)
  /-- Nothing has come yet. -/
  | nothing
  | dead
  deriving DecidableEq, Repr

/-- A call as a payload, if the runtime has registered the callback. -/
def callPayload (caller : UInt16) (name : String) (params : List Callback.Param)
    (s : Session κ η) : Except Fault (Option Bytes) :=
  match s.callbacks.writeCall (some caller) name params
      (Cell.Writer.empty s.settings.maxPayloadSize.toNat) with
  | (.ok true, w) => .ok (some w.bytes)
  | (.ok false, _) => .ok none
  | (.error e, _) => .error e

def enterCallback (record : Bytes) (s : Session κ η) : Session κ η :=
  match s.callbacks.register record with
  | .error e => s.note (.registrationRejected e)
  | .ok (name, callbacks) =>
    let params := ((callbacks.get? name).getD []).length
    ({ s with callbacks := callbacks }.note (.callbackRegistered name params)).note
      (.callRegistered name)

def lookupNotices (name : String) (found : Native.Lookup) : List Notice :=
  (match found with
    | .bound handle => [.nativeBound name handle]
    | _ => []) ++ [.nativeLookedUp name found.handle?]

def answerLookup (caller : UInt16) (name : String) (s : Session κ η) : Session κ η :=
  let done := s.natives.resolve name s.host
  let s := { s with natives := done.table, host := done.host }
  let s := match done.answer with
    | some answer => s.record (.asked name answer)
    | none => s
  let s := s.noteAll (lookupNotices name done.lookup)
  match LookupAnswer.encode ⟨caller, done.lookup.handle?⟩ with
  | .error e => s.note (.handleReplyFailed e)
  | .ok payload => s.send Opcode.reply payload

/-- What is noted when a handle refuses a request because its session is in use. -/
def refusalNotices : Native.Request → List Notice
  | .tick => [.reentrantTick]
  | .call _ name _ => [.reentrantCall name]
  | .terminate _ => [.reentrantTerminate]
  | .inspect => []

def invocationNotice (request : Nat) : Except Fault Nat → Notice
  | .ok written => .nativeInvoked request written
  | .error e => .nativeFailed e

/-- Answers an invocation with the caller and the result, or the caller alone if it failed. -/
def answerInvocation (caller : UInt16) (request : Bytes) (s : Session κ η) : Session κ η :=
  match (Cell.Writer.empty s.settings.maxPayloadSize.toNat).put (.u16 caller) with
  | .error e => s.note (.nativeReplyFailed e)
  | .ok w =>
    let done := s.natives.invoke request w s.host
    let s := { s with host := done.host }.noteAll (done.asked.flatMap refusalNotices)
    (s.note (invocationNotice request.length done.result)).send Opcode.reply done.writer.bytes

/-- How invocations are answered; `none` when what a native asks for comes to no end. -/
class Invoker (κ η : Type) where
  answer : UInt16 → Bytes → Session κ η → Option (Session κ η)

/-- A session by itself refuses what natives ask. -/
instance : Invoker κ η where
  answer caller request s := some (s.answerInvocation caller request)

/-- Notes that a callback was not answered: there was no reply, or an empty one. -/
def noteSilence (callback : String) (reply : Option Bytes) (s : Session κ η) : Session κ η :=
  match reply with
  | some (_ :: _) => s
  | _ => s.note (.noResponse callback)

/-- Delivers the init callback as if the host's script had just begun, and waits for the answer.
One such delivery excludes another. -/
def deliverInit (await : Wait κ η) (s : Session κ η) : Option (Session κ η) :=
  if s.delivering then some (s.note .nestedStart)
  else
    let s := { s with status := s.status.initDelivered }
    match s.callPayload 0 s.settings.initCallback [] with
    | .error e => some (s.note (.notForwarded s.settings.initCallback e))
    | .ok none => some s
    | .ok (some payload) =>
      match await ({ s with delivering := true }.send Opcode.publicCall payload) with
      | none => none
      | some (reply, s) =>
        some ({ s with delivering := false }.noteSilence s.settings.initCallback reply)

/-- Restarts the host's script, if it runs. -/
def restart (s : Session κ η) : Session κ η :=
  if s.status.hostInit then
    let s := s.note (.running s.settings.initCommand)
    { s with host := Host.execCommand s.settings.initCommand s.host }.record
      (.command s.settings.initCommand)
  else s

def serveStart (await : Wait κ η) (mode : StartMode) (s : Session κ η) : Option (Session κ η) :=
  let s := s.note .remoteStarted
  let s := { s with status := s.status.remoteStarted }
  match mode with
  | .waitForHost => some (s.note .startsWaiting)
  | .restart => some (s.note .startsRestarting).restart
  | .deliverInit =>
    let s := s.note .startsFaking
    if s.status.hostInit then s.deliverInit await else some s
  | .unknown mode => some (s.note (.invalidStart mode))

def serve [Invoker κ η] (await : Wait κ η) (command : Command) (s : Session κ η) :
    Option (Session κ η) :=
  match command with
  | .ping => some (s.send Opcode.pong [])
  | .print text => some (s.note (.remote text))
  | .alive => some s
  | .registerCall record => some (s.enterCallback record)
  | .findNative caller name => some (s.answerLookup caller name)
  | .invokeNative caller request => Invoker.answer caller request s
  | .reconnect =>
    let s := s.note .remoteReconnecting
    some ({ s with status := s.status.reconnectRequested }.disconnect none true)
  | .disconnect =>
    let s := s.note .remoteDisconnecting
    some { s with status := s.status.disconnectRequested }
  | .start mode => s.serveStart await mode

/-- Serves a frame, if it is a command. -/
def serveFrame [Invoker κ η] (await : Wait κ η) (f : Frame) (s : Session κ η) :
    Option (Step × Session κ η) :=
  match Command.decode f with
  | .error e => some (.served, s.note (.malformed f.opcode e))
  | .ok none => some (.answer f.payload, s)
  | .ok (some command) =>
    match s.serve await command with
    | none => none
    | some s => some (.served, s)

end HostLink.Session
