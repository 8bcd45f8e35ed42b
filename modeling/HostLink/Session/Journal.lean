import HostLink.Callback.Table
import HostLink.Lifecycle
import HostLink.Native.Table
import HostLink.Notice
import HostLink.Status

/-!
# HostLink.Session.Journal

What a session did to the world around it and what it saw of it, as events. The beginning and the
end of a connection are entered with what the session remembered at that moment. The events of one
kind are picked out of a journal by the functions at the end, in the order of the journal.
-/

namespace HostLink

/-- What a session remembers of its runtimes, over a host `η`. -/
structure Memory (η : Type) where
  status : Status
  natives : Native.Table η
  callbacks : Callback.Table

/-- Something that a session did or saw, over a host `η`. -/
inductive Event (η : Type) where
  | notice (n : Notice)
  | report (r : Report)
  /-- The channel was asked to make itself ready. -/
  | setUp
  /-- The channel let a runtime in; this was remembered then. -/
  | letIn (kept : Memory η)
  /-- The channel was closed; this was remembered when the connection was given up. -/
  | hungUp (cause : Cause) (kept : Memory η)
  | received (f : Frame)
  | sent (f : Frame) (status : Status)
  | unsent (f : Frame) (status : Status)
  /-- The host was asked for a native by name. -/
  | asked (name : String) (answer : Option (Native η))
  | command (text : String)

abbrev Journal (η : Type) := List (Event η)

namespace Event

variable {η : Type}

def sent? : Event η → Option Frame
  | .sent f _ => some f
  | _ => none

def received? : Event η → Option Frame
  | .received f => some f
  | _ => none

def report? : Event η → Option Report
  | .report r => some r
  | _ => none

def command? : Event η → Option String
  | .command text => some text
  | _ => none

def notice? : Event η → Option Notice
  | .notice n => some n
  | _ => none

end Event

namespace Journal

variable {η : Type}

def sent (j : Journal η) : List Frame := j.filterMap Event.sent?

def received (j : Journal η) : List Frame := j.filterMap Event.received?

def reports (j : Journal η) : List Report := j.filterMap Event.report?

def commands (j : Journal η) : List String := j.filterMap Event.command?

def notices (j : Journal η) : List Notice := j.filterMap Event.notice?

end Journal

end HostLink
