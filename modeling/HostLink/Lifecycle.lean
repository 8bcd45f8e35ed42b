/-!
# HostLink.Lifecycle

The life of a session as its embedder sees it: a runtime comes and goes, and while there is none
the players are shown a holding state. Every transition and every change of the holding state is
reported to a listener, if there is one.

* `Holding.signal` — a transition; all but a connection raise the holding state.
* `Holding.set`    — raises or lowers it; nothing is reported when nothing changes.
-/

namespace HostLink

/-- A transition in the life of a session. -/
inductive Lifecycle where
  /-- The session was made and waits for its first runtime. -/
  | starting
  | connected
  /-- The runtime went away as announced. -/
  | disconnected
  /-- The runtime went away without notice. -/
  | error
  deriving DecidableEq, Repr

def Lifecycle.describe : Lifecycle → String
  | .starting => "Starting"
  | .connected => "Connected"
  | .disconnected => "Disconnected"
  | .error => "Error"

/-- What a listener is told. -/
inductive Report where
  | event (e : Lifecycle)
  | holding (on : Bool)
  deriving DecidableEq, Repr

/-- Who listens. -/
inductive Listener where
  | absent
  /-- Somebody who wants to know of transitions only. -/
  | events
  | full
  deriving DecidableEq, Repr

def Listener.hear : Listener → Report → List Report
  | .absent, _ => []
  | .events, .event e => [.event e]
  | .events, .holding _ => []
  | .full, r => [r]

/-- The holding state and the last transition. -/
structure Holding where
  on : Bool
  last : Option Lifecycle
  listener : Listener
  deriving DecidableEq, Repr

namespace Holding

/-- Before any transition. -/
def initial (listener : Listener) : Holding := ⟨false, none, listener⟩

/-- Raises or lowers the holding state, with what is heard of it. -/
def set (on : Bool) (h : Holding) : Holding × List Report :=
  if h.on = on then (h, []) else ({ h with on := on }, h.listener.hear (.holding on))

/-- Whether the holding state is up after a transition. -/
def onAfter : Lifecycle → Bool
  | .connected => false
  | _ => true

/-- Makes a transition, with what is heard of it: first the transition, then the holding state. -/
def signal (e : Lifecycle) (h : Holding) : Holding × List Report :=
  match ({ h with last := some e } : Holding).set (onAfter e) with
  | (h', heard) => (h', h.listener.hear (.event e) ++ heard)

def describeBool (b : Bool) : String := if b then "true" else "false"

def describe (h : Holding) : String :=
  let last := match h.last with
    | none => "None"
    | some e => "Some(" ++ e.describe ++ ")"
  "Intermission \x7b on: " ++ describeBool h.on ++ ", last: " ++ last ++ ", reporter: " ++
    describeBool (decide (h.listener ≠ .absent)) ++ " \x7d"

end Holding

end HostLink
