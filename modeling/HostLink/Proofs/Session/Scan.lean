import HostLink.Session.Drive

/-!
# HostLink.Proofs.Session.Scan

A tick or a call told without nesting. Whatever comes in is read once, from left to right, with a
stack of those who wait for an answer: perhaps the delivery of an init callback, above perhaps a
call. A command is served as soon as it comes; a frame that is no command goes to whoever waits on
top. What the scanner works on is a `Desk`: what the session remembers, the host, and the frames and
commands that went in and out. It knows nothing of the channel, and never calls itself from within.
-/

namespace HostLink

/-- What one look at the channel finds. -/
inductive Look where
  | frame (f : Frame)
  | nothing
  deriving DecidableEq, Repr

/-- The frames among what is found. -/
def Look.frames (script : List Look) : List Frame :=
  script.filterMap fun
    | .frame f => some f
    | .nothing => none

/-- Somebody who waits for an answer. -/
inductive Waiter where
  /-- The host, for the value of its call. -/
  | call
  /-- The delivery of the init callback to a runtime that has started. -/
  | handshake
  deriving DecidableEq, Repr

/-- What a session does and remembers, apart from its channel. -/
structure Desk (η : Type) where
  status : Status
  natives : Native.Table η
  callbacks : Callback.Table
  host : η
  sent : List Frame
  received : List Frame
  commands : List String

namespace Desk

variable {η : Type}

def hear (f : Frame) (d : Desk η) : Desk η := { d with received := d.received ++ [f] }

def send (opcode : UInt8) (payload : Bytes) (d : Desk η) : Desk η :=
  { d with sent := d.sent ++ [⟨opcode, payload⟩] }

/-- The connection has ended. -/
def hangUp (cause : Cause) (d : Desk η) : Desk η :=
  { d with
    status := d.status.disconnected cause
    natives := if cause.clearsTables then .empty else d.natives
    callbacks := if cause.clearsTables then .empty else d.callbacks }

/-- The call of the init callback, if it is registered and fits. -/
def initCall (settings : SessionSettings) (d : Desk η) : Option Bytes :=
  match d.callbacks.writeCall (some 0) settings.initCallback []
      (Cell.Writer.empty settings.maxPayloadSize.toNat) with
  | (.ok true, w) => some w.bytes
  | _ => none

/-- The runtime has started, and the init callback is about to go out. -/
def started (d : Desk η) : Desk η :=
  { d with status := d.status.remoteStarted.initDelivered }

variable [Host η]

/-- Serves a command for which nobody has to wait. -/
def serve (settings : SessionSettings) (d : Desk η) : Command → Desk η
  | .ping => d.send Opcode.pong []
  | .print _ => d
  | .alive => d
  | .registerCall record =>
    match d.callbacks.register record with
    | .error _ => d
    | .ok (_, callbacks) => { d with callbacks := callbacks }
  | .findNative caller name =>
    let done := d.natives.resolve name d.host
    let d := { d with natives := done.table, host := done.host }
    match LookupAnswer.encode ⟨caller, done.lookup.handle?⟩ with
    | .error _ => d
    | .ok payload => d.send Opcode.reply payload
  | .invokeNative caller request =>
    match (Cell.Writer.empty settings.maxPayloadSize.toNat).put (.u16 caller) with
    | .error _ => d
    | .ok w =>
      let done := d.natives.invoke request w d.host
      { d with host := done.host }.send Opcode.reply done.writer.bytes
  | .reconnect => { d with status := d.status.reconnectRequested }.hangUp .expected
  | .disconnect => { d with status := d.status.disconnectRequested }
  | .start mode =>
    let d := { d with status := d.status.remoteStarted }
    if mode = .restart ∧ d.status.hostInit then
      { d with
        host := Host.execCommand settings.initCommand d.host
        commands := d.commands ++ [settings.initCommand] }
    else d

/-- Serves a start that asks for the init callback. A handshake begins if the host has begun, none
has begun, and the callback can be called. -/
def deliver (settings : SessionSettings) (w : List Waiter) (d : Desk η) : List Waiter × Desk η :=
  let d := d.serve settings (.start .deliverInit)
  if d.status.hostInit ∧ .handshake ∉ w then
    let d := { d with status := d.status.initDelivered }
    match d.initCall settings with
    | some payload => (.handshake :: w, d.send Opcode.publicCall payload)
    | none => (w, d)
  else (w, d)

theorem serve_link (settings : SessionSettings) (d : Desk η) {command : Command}
    (leaves : command ≠ .reconnect) : (d.serve settings command).status.link = d.status.link := by
  cases command with
  | registerCall record =>
    simp only [serve]
    split <;> rfl
  | findNative caller name =>
    simp only [serve]
    split <;> rfl
  | invokeNative caller request =>
    simp only [serve]
    split <;> rfl
  | reconnect => exact absurd rfl leaves
  | start mode =>
    simp only [serve]
    split <;> rfl
  | _ => rfl

theorem serve_received (settings : SessionSettings) (d : Desk η) (command : Command) :
    (d.serve settings command).received = d.received := by
  cases command with
  | registerCall record =>
    simp only [serve]
    split <;> rfl
  | findNative caller name =>
    simp only [serve]
    split <;> rfl
  | invokeNative caller request =>
    simp only [serve]
    split <;> rfl
  | start mode =>
    simp only [serve]
    split <;> rfl
  | _ => rfl

/-- A delivery leaves the waiters as they are, or a handshake goes on top of them. -/
theorem deliver_waiters (settings : SessionSettings) (w : List Waiter) (d : Desk η) :
    (d.deliver settings w).1 = w ∨
      .handshake ∉ w ∧ (d.deliver settings w).1 = .handshake :: w := by
  unfold deliver
  dsimp only
  split
  · rename_i opens
    split
    · exact .inr ⟨opens.2, rfl⟩
    · exact .inl rfl
  · exact .inl rfl

theorem deliver_received (settings : SessionSettings) (w : List Waiter) (d : Desk η) :
    (d.deliver settings w).2.received = d.received := by
  have served := d.serve_received settings (.start .deliverInit)
  unfold deliver
  dsimp only
  split
  · split <;> exact served
  · exact served

theorem deliver_kept {settings : SessionSettings} {w : List Waiter} {d : Desk η}
    (kept : d.status.hostInit = true → .handshake ∈ w) :
    d.deliver settings w = (w, d.serve settings (.start .deliverInit)) :=
  if_neg fun h => h.2 (kept h.1)

theorem deliver_opens {settings : SessionSettings} {w : List Waiter} {d : Desk η} {payload : Bytes}
    (host : d.status.hostInit = true) (free : .handshake ∉ w)
    (written : d.started.initCall settings = some payload) :
    d.deliver settings w = (.handshake :: w, d.started.send Opcode.publicCall payload) := by
  have opens : (d.serve settings (.start .deliverInit)).status.hostInit ∧ .handshake ∉ w :=
    ⟨host, free⟩
  have served : { d.serve settings (.start .deliverInit) with
      status := (d.serve settings (.start .deliverInit)).status.initDelivered } = d.started := rfl
  unfold deliver
  dsimp only
  rw [if_pos opens, served, written]

theorem deliver_passes {settings : SessionSettings} {w : List Waiter} {d : Desk η}
    (host : d.status.hostInit = true) (free : .handshake ∉ w)
    (unwritten : d.started.initCall settings = none) :
    d.deliver settings w = (w, d.started) := by
  have opens : (d.serve settings (.start .deliverInit)).status.hostInit ∧ .handshake ∉ w :=
    ⟨host, free⟩
  have served : { d.serve settings (.start .deliverInit) with
      status := (d.serve settings (.start .deliverInit)).status.initDelivered } = d.started := rfl
  unfold deliver
  dsimp only
  rw [if_pos opens, served, unwritten]

end Desk

/-- What a frame does to whoever waits. -/
inductive Reaction (η : Type) where
  | goesOn (w : List Waiter) (d : Desk η)
  | ends (d : Desk η) (reply : Option Bytes)

/-- The desk afterwards. -/
def Reaction.desk {η : Type} : Reaction η → Desk η
  | .goesOn _ d => d
  | .ends d _ => d

/-- How a tick or call ended: the answer to the call, and what was not read. -/
structure Outcome (η : Type) where
  desk : Desk η
  reply : Option Bytes
  rest : List Look

namespace Scan

variable {η : Type} [Host η]

/-- Reacts to a frame. -/
def react (settings : SessionSettings) (w : List Waiter) (d : Desk η) (f : Frame) : Reaction η :=
  match Command.decode f with
  | .error _ => .goesOn w (d.hear f)
  | .ok none =>
    match w with
    | [] => .goesOn [] (d.hear f)
    | .handshake :: w => .goesOn w (d.hear f)
    | .call :: _ => .ends (d.hear f) (some f.payload)
  | .ok (some .reconnect) => .ends ((d.hear f).serve settings .reconnect) none
  | .ok (some (.start .deliverInit)) =>
    .goesOn ((d.hear f).deliver settings w).1 ((d.hear f).deliver settings w).2
  | .ok (some command) => .goesOn w ((d.hear f).serve settings command)

theorem react_serve {settings : SessionSettings} {d : Desk η} {f : Frame} {command : Command}
    (decoded : Command.decode f = .ok (some command)) (leaves : command ≠ .reconnect)
    (asks : command ≠ .start .deliverInit) (w : List Waiter) :
    react settings w d f = .goesOn w ((d.hear f).serve settings command) := by
  unfold react
  rw [decoded]
  cases command with
  | reconnect => exact absurd rfl leaves
  | start mode =>
    cases mode with
    | deliverInit => exact absurd rfl asks
    | _ => rfl
  | _ => rfl

/-- A frame is heard once, whatever it does. -/
theorem react_received (settings : SessionSettings) (w : List Waiter) (d : Desk η) (f : Frame) :
    (react settings w d f).desk.received = d.received ++ [f] := by
  unfold react
  split
  · rfl
  · cases w with
    | nil => rfl
    | cons waiter w => cases waiter <;> rfl
  · exact Desk.serve_received settings (d.hear f) .reconnect
  · exact Desk.deliver_received settings w (d.hear f)
  · rename_i command _ _ _
    exact Desk.serve_received settings (d.hear f) command

/-- There is never more than one handshake, and it is above the call. -/
theorem react_stacked {settings : SessionSettings} {w w' : List Waiter} {d d' : Desk η} {f : Frame}
    (stacked : w.Sublist [.handshake, .call]) (reacts : react settings w d f = .goesOn w' d') :
    w'.Sublist [.handshake, .call] := by
  unfold react at reacts
  split at reacts
  · cases reacts
    exact stacked
  · cases w with
    | nil =>
      cases reacts
      exact stacked
    | cons waiter w =>
      cases waiter with
      | call => cases reacts
      | handshake =>
        cases reacts
        exact (List.sublist_cons_self _ _).trans stacked
  · cases reacts
  · cases reacts
    rcases (d.hear f).deliver_waiters settings w with kept | ⟨free, opened⟩
    · rwa [kept]
    · rw [opened]
      cases stacked with
      | cons _ below => exact below.cons_cons _
      | cons_cons _ below => exact absurd List.mem_cons_self free
  · cases reacts
    exact stacked

/-- Reads a script to its end, or until nobody has to go on. -/
def scan (settings : SessionSettings) (w : List Waiter) (d : Desk η) : List Look → Outcome η
  | [] => ⟨d.hangUp (d.status.cause false), none, []⟩
  | .nothing :: rest => if w = [] then ⟨d, none, rest⟩ else scan settings w d rest
  | .frame f :: rest =>
    match react settings w d f with
    | .goesOn w d => scan settings w d rest
    | .ends d reply => ⟨d, reply, rest⟩

/-- The scanner reads from the front, and hears each frame that it reads once and in order. -/
theorem scan_reads (settings : SessionSettings) (w : List Waiter) (d : Desk η)
    (script : List Look) : ∃ taken, script = taken ++ (scan settings w d script).rest ∧
      (scan settings w d script).desk.received = d.received ++ Look.frames taken := by
  induction script generalizing w d with
  | nil => exact ⟨[], rfl, by simp [scan, Desk.hangUp, Look.frames]⟩
  | cons look rest ih =>
    cases look with
    | nothing =>
      by_cases free : w = []
      · rw [scan, if_pos free]
        exact ⟨[.nothing], rfl, by simp [Look.frames]⟩
      · rw [scan, if_neg free]
        obtain ⟨taken, read, heard⟩ := ih w d
        exact ⟨.nothing :: taken, congrArg _ read, heard⟩
    | frame f =>
      have received := react_received settings w d f
      rw [scan]
      cases reacts : react settings w d f with
      | goesOn w' d' =>
        rw [reacts] at received
        dsimp only [Reaction.desk] at received
        obtain ⟨taken, read, heard⟩ := ih w' d'
        refine ⟨.frame f :: taken, congrArg _ read, ?_⟩
        rw [heard, received]
        simp [Look.frames]
      | ends d' reply =>
        rw [reacts] at received
        exact ⟨[.frame f], rfl, received⟩

end Scan

end HostLink
