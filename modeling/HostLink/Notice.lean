import HostLink.Command

/-!
# HostLink.Notice

What the link has to say about its work, by cause, and one function for the wording.
-/

namespace HostLink

/-- A remark about the work of the link. -/
inductive Notice where
  | callbackRegistered (name : String) (params : Nat)
  | nativeBound (name : String) (handle : Int32)
  | pauseDetected
  | resumeDetected
  | keepalive
  /-- The channel could not be made ready when the session was made. -/
  | firstSetupFailed (e : Fault)
  | setupFailed (e : Fault)
  | renewalFailed (e : Fault)
  | connectFailed (e : Fault)
  /-- A runtime connected; `again` if it had announced that it would. -/
  | clientConnected (again : Bool)
  /-- The process's own directory could not be read. -/
  | directoryUnread (reason : String)
  | announced
  | greeting (dir : String)
  | announceFailed (e : Fault)
  | clientDisconnected
  | clientLost (context : String)
  | strayReply (size : Nat)
  | notForwarded (callback : String) (e : Fault)
  | noResponse (callback : String)
  | sendFailed (opcode : UInt8) (e : Fault)
  | malformed (opcode : UInt8) (e : Fault)
  | remote (text : String)
  | callRegistered (name : String)
  | registrationRejected (e : Fault)
  | nativeLookedUp (name : String) (handle : Option Int32)
  | handleReplyFailed (e : Fault)
  | nativeReplyFailed (e : Fault)
  | nativeInvoked (request response : Nat)
  | nativeFailed (e : Fault)
  | remoteReconnecting
  | remoteDisconnecting
  | remoteStarted
  | startsWaiting
  | startsRestarting
  | startsFaking
  | running (command : String)
  | invalidStart (mode : UInt8)
  | nestedStart
  | reentrantTick
  | reentrantCall (name : String)
  | reentrantTerminate
  deriving DecidableEq, Repr

/-- How much a notice matters. -/
inductive Level where
  | error
  | warning
  | info
  | debug
  /-- The runtime's own words. -/
  | remote
  deriving DecidableEq, Repr

namespace Notice

def level : Notice → Level
  | .callbackRegistered .. => .debug
  | .nativeBound .. => .debug
  | .pauseDetected => .info
  | .resumeDetected => .info
  | .keepalive => .debug
  | .firstSetupFailed _ => .warning
  | .setupFailed _ => .warning
  | .renewalFailed _ => .warning
  | .connectFailed _ => .warning
  | .clientConnected _ => .info
  | .directoryUnread _ => .warning
  | .announced => .info
  | .greeting _ => .debug
  | .announceFailed _ => .error
  | .clientDisconnected => .info
  | .clientLost _ => .error
  | .strayReply _ => .error
  | .notForwarded .. => .warning
  | .noResponse _ => .error
  | .sendFailed .. => .warning
  | .malformed .. => .warning
  | .remote _ => .remote
  | .callRegistered _ => .debug
  | .registrationRejected _ => .warning
  | .nativeLookedUp .. => .debug
  | .handleReplyFailed _ => .error
  | .nativeReplyFailed _ => .error
  | .nativeInvoked .. => .debug
  | .nativeFailed _ => .warning
  | .remoteReconnecting => .info
  | .remoteDisconnecting => .info
  | .remoteStarted => .info
  | .startsWaiting => .debug
  | .startsRestarting => .debug
  | .startsFaking => .debug
  | .running _ => .debug
  | .invalidStart _ => .error
  | .nestedStart => .warning
  | .reentrantTick => .debug
  | .reentrantCall _ => .warning
  | .reentrantTerminate => .warning

def text : Notice → String
  | .callbackRegistered name params =>
    "Registered callback " ++ name ++ " with " ++ toString params ++ " parameters"
  | .nativeBound name handle =>
    "Native " ++ name ++ " bound to handle " ++ toString handle.toInt
  | .pauseDetected => "Debugger pause detected"
  | .resumeDetected => "Debugger resume detected"
  | .keepalive => "Keepalive tick"
  | .firstSetupFailed e => "Channel setup failed, retrying on connect: " ++ e.message
  | .setupFailed e => "Channel setup failed: " ++ e.message
  | .renewalFailed e => "Channel setup failed after disconnect: " ++ e.message
  | .connectFailed e => "Connect failed: " ++ e.message
  | .clientConnected again => if again then "Client reconnected" else "Connected to client"
  | .directoryUnread reason => "Cannot read working directory: " ++ reason
  | .announced => "Server announcement sent"
  | .greeting dir => "Hi from " ++ dir
  | .announceFailed e => "Cannot encode announcement: " ++ e.message
  | .clientDisconnected => "Client disconnected"
  | .clientLost context => "Unexpected disconnect of client. " ++ context
  | .strayReply size => "Unhandled response in tick (" ++ toString size ++ " bytes)"
  | .notForwarded callback e => "Cannot forward callback " ++ callback ++ ": " ++ e.message
  | .noResponse callback => "Received no response to callback " ++ callback
  | .sendFailed opcode e => "Failed to send opcode " ++ Text.hexByte opcode ++ ": " ++ e.message
  | .malformed opcode e =>
    "Dropping malformed command " ++ Text.hexByte opcode ++ ": " ++ e.message
  | .remote text => text
  | .callRegistered name => "Register call " ++ name
  | .registrationRejected e => "Rejected callback registration: " ++ e.message
  | .nativeLookedUp name handle => "Find native " ++ name ++ " -> " ++ describeCell? handle
  | .handleReplyFailed e => "Cannot encode native handle reply: " ++ e.message
  | .nativeReplyFailed e => "Cannot encode native reply: " ++ e.message
  | .nativeInvoked request response =>
    "Native invoked with " ++ toString request ++ " bytes, response has " ++
      toString response ++ " bytes"
  | .nativeFailed e => "Native invocation failed: " ++ e.message
  | .remoteReconnecting => "The remote is reconnecting"
  | .remoteDisconnecting => "The remote is disconnecting"
  | .remoteStarted => "The remote has started"
  | .startsWaiting => "Using 'none' start method"
  | .startsRestarting => "Using restart start method"
  | .startsFaking => "Using fake init start method"
  | .running command => "Running " ++ command ++ " to attach the remote"
  | .invalidStart mode => "Invalid start mode " ++ toString mode.toNat
  | .nestedStart => "Init handshake already in progress, ignoring nested start"
  | .reentrantTick => "Skipping reentrant tick"
  | .reentrantCall name => "Refusing reentrant call to " ++ name
  | .reentrantTerminate => "Refusing reentrant terminate"

end Notice

def Level.letter : Level → String
  | .error => "E"
  | .warning => "W"
  | .info => "I"
  | .debug => "D"
  | .remote => "R"

/-- A notice as a line: the letter of its level, a bar and the wording. -/
def Notice.line (n : Notice) : String :=
  n.level.letter ++ "|" ++ n.text

end HostLink
