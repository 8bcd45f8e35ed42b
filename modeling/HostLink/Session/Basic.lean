import HostLink.Announcement
import HostLink.Callback.Call
import HostLink.Channel
import HostLink.Native.Table
import HostLink.Pause
import HostLink.Session.Journal

/-!
# HostLink.Session.Basic

The state of a session with one runtime, over a channel `κ` and a host `η`. What a session does to
the world around it is kept in its past, the journal read backwards, so that an event is entered
in front.
-/

namespace HostLink

/-- A session. -/
structure Session (κ η : Type) where
  settings : SessionSettings
  channel : κ
  host : η
  status : Status
  natives : Native.Table η
  callbacks : Callback.Table
  detector : Pause.Detector
  holding : Holding
  delivering : Bool
  /-- Whether the handle that holds the session has lent it out. -/
  lent : Bool
  /-- What was done and seen, newest first. -/
  past : List (Event η)

namespace Session

variable {κ η : Type}

def memory (s : Session κ η) : Memory η := ⟨s.status, s.natives, s.callbacks⟩

def record (e : Event η) (s : Session κ η) : Session κ η :=
  { s with past := e :: s.past }

def recordAll (es : Journal η) (s : Session κ η) : Session κ η :=
  { s with past := es.reverse ++ s.past }

def note (n : Notice) (s : Session κ η) : Session κ η :=
  s.record (.notice n)

def noteAll (ns : List Notice) (s : Session κ η) : Session κ η :=
  s.recordAll (ns.map .notice)

def signal (e : Lifecycle) (s : Session κ η) : Session κ η :=
  match s.holding.signal e with
  | (holding, heard) => { s with holding := holding }.recordAll (heard.map .report)

def setHolding (on : Bool) (s : Session κ η) : Session κ η :=
  match s.holding.set on with
  | (holding, heard) => { s with holding := holding }.recordAll (heard.map .report)

def journal (s : Session κ η) : Journal η := s.past.reverse

def setLent (on : Bool) (s : Session κ η) : Session κ η := { s with lent := on }

def forgetPast (s : Session κ η) : Session κ η := { s with past := [] }

/-- Whether a runtime is connected: the link is up and the channel agrees. -/
def isConnected [Channel κ] (s : Session κ η) : Bool :=
  s.status.isUp && Channel.isConnected s.channel

end Session

end HostLink
