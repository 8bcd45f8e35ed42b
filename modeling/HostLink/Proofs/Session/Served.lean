import HostLink.Proofs.Session.Passage

/-!
# HostLink.Proofs.Session.Served

Everything that serving a frame can come to. A frame is malformed, or no command, or a command that
is served at once (`Served`), or a start for which the init callback has to go out (`Asks`); only
then does the outcome depend on a wait. `serveFrame_cases` says that there is nothing else.
-/

namespace HostLink.Session

variable {κ η : Type} [Channel κ]

/-- The session when it knows that the runtime has started. -/
def begun (s : Session κ η) : Session κ η :=
  { s.note .remoteStarted with status := s.status.remoteStarted }

/-- The session when it is about to call the init callback. -/
def delivered (s : Session κ η) : Session κ η :=
  { s.begun.note .startsFaking with status := s.status.remoteStarted.initDelivered }

/-- The session when the call of the init callback has gone out. -/
def asking (payload : Bytes) (s : Session κ η) : Session κ η :=
  { s.delivered with delivering := true }.send Opcode.publicCall payload

/-- The session when the init callback was answered, or could not be. -/
def resumed (reply : Option Bytes) (s : Session κ η) : Session κ η :=
  { s with delivering := false }.noteSilence s.settings.initCallback reply

/-- The session when it has been told that the runtime will come back. -/
def expecting (s : Session κ η) : Session κ η :=
  { s.note .remoteReconnecting with status := s.status.reconnectRequested }

theorem calm_begun (s : Session κ η) : Calm s s.begun :=
  (still_note _ s).calm.trans (.of_eq rfl rfl rfl rfl rfl)

theorem calm_delivered (s : Session κ η) : Calm s s.delivered :=
  (calm_begun s).trans ((still_note .startsFaking _).calm.trans (.of_eq rfl rfl rfl rfl rfl))

theorem calm_asking (payload : Bytes) (s : Session κ η) : Calm s (s.asking payload) := by
  have raised : Calm s.delivered { s.delivered with delivering := true } :=
    .of_eq rfl rfl rfl rfl rfl
  exact (calm_delivered s).trans (raised.trans (still_send _ _ _).calm)

theorem still_resumed (reply : Option Bytes) (s : Session κ η) : Still s (s.resumed reply) := by
  have lowered : Still s { s with delivering := false } := ⟨rfl, rfl, .of_eq rfl, fun _ h => h⟩
  exact lowered.trans (still_noteSilence _ reply _)

variable [Host η]

/-- The frame makes the session call the init callback and wait. -/
structure Asks (f : Frame) (payload : Bytes) (s : Session κ η) : Prop where
  command : Command.decode f = .ok (some (.start .deliverInit))
  hostInit : s.status.hostInit = true
  idle : s.delivering = false
  ready : s.delivered.callPayload 0 s.settings.initCallback [] = .ok (some payload)

/-- What a frame that asks for no wait comes to. -/
inductive Served (f : Frame) (s : Session κ η) : Step → Session κ η → Prop where
  | malformed {e : Fault} (h : Command.decode f = .error e) :
      Served f s .served (s.note (.malformed f.opcode e))
  | answer (h : Command.decode f = .ok none) : Served f s (.answer f.payload) s
  | ping (h : Command.decode f = .ok (some .ping)) : Served f s .served (s.send Opcode.pong [])
  | print {text : String} (h : Command.decode f = .ok (some (.print text))) :
      Served f s .served (s.note (.remote text))
  | alive (h : Command.decode f = .ok (some .alive)) : Served f s .served s
  | registerCall {record : Bytes} (h : Command.decode f = .ok (some (.registerCall record))) :
      Served f s .served (s.enterCallback record)
  | findNative {caller : UInt16} {name : String}
      (h : Command.decode f = .ok (some (.findNative caller name))) :
      Served f s .served (s.answerLookup caller name)
  | invokeNative {caller : UInt16} {request : Bytes}
      (h : Command.decode f = .ok (some (.invokeNative caller request))) :
      Served f s .served (s.answerInvocation caller request)
  | reconnect (h : Command.decode f = .ok (some .reconnect)) :
      Served f s .served (s.expecting.disconnect none true)
  | disconnect (h : Command.decode f = .ok (some .disconnect)) :
      Served f s .served { s.note .remoteDisconnecting with
        status := s.status.disconnectRequested }
  | waits (h : Command.decode f = .ok (some (.start .waitForHost))) :
      Served f s .served (s.begun.note .startsWaiting)
  | restarts (h : Command.decode f = .ok (some (.start .restart))) :
      Served f s .served (s.begun.note .startsRestarting).restart
  | unknown {mode : UInt8} (h : Command.decode f = .ok (some (.start (.unknown mode)))) :
      Served f s .served (s.begun.note (.invalidStart mode))
  | early (h : Command.decode f = .ok (some (.start .deliverInit)))
      (host : s.status.hostInit = false) : Served f s .served (s.begun.note .startsFaking)
  | nested (h : Command.decode f = .ok (some (.start .deliverInit)))
      (host : s.status.hostInit = true) (busy : s.delivering = true) :
      Served f s .served ((s.begun.note .startsFaking).note .nestedStart)
  | unwritable {e : Fault} (h : Command.decode f = .ok (some (.start .deliverInit)))
      (host : s.status.hostInit = true) (idle : s.delivering = false)
      (bad : s.delivered.callPayload 0 s.settings.initCallback [] = .error e) :
      Served f s .served (s.delivered.note (.notForwarded s.settings.initCallback e))
  | unregistered (h : Command.decode f = .ok (some (.start .deliverInit)))
      (host : s.status.hostInit = true) (idle : s.delivering = false)
      (absent : s.delivered.callPayload 0 s.settings.initCallback [] = .ok none) :
      Served f s .served s.delivered

/-- A start that wants the init callback is served at once, or its call goes out and the rest is up
to the wait. -/
theorem serve_deliverInit_cases {await : Wait κ η} {f : Frame} {s t : Session κ η}
    (command : Command.decode f = .ok (some (.start .deliverInit)))
    (run : s.serve await (.start .deliverInit) = some t) :
    Served f s .served t ∨ ∃ payload reply u, Asks f payload s ∧
      await (s.asking payload) = some (reply, u) ∧ t = u.resumed reply := by
  simp only [serve, serveStart] at run
  split at run
  · rename_i host
    unfold deliverInit at run
    split at run
    · rename_i busy
      cases run
      exact .inl (.nested command host busy)
    · rename_i idle
      have idle : s.delivering = false := eq_false_of_ne_true idle
      dsimp only at run
      split at run
      · rename_i e bad
        cases run
        exact .inl (.unwritable command host idle bad)
      · rename_i absent
        cases run
        exact .inl (.unregistered command host idle absent)
      · rename_i payload ready
        split at run
        · cases run
        · rename_i reply u wait
          cases run
          exact .inr ⟨payload, reply, u, ⟨command, host, idle, ready⟩, wait, rfl⟩
  · rename_i host
    cases run
    exact .inl (.early command (eq_false_of_ne_true host))

theorem serve_deliverInit_idle (await : Wait κ η) {s : Session κ η}
    (host : s.status.hostInit = true) (idle : s.delivering = false) :
    s.serve await (.start .deliverInit) =
      match s.delivered.callPayload 0 s.settings.initCallback [] with
      | .error e => some (s.delivered.note (.notForwarded s.settings.initCallback e))
      | .ok none => some s.delivered
      | .ok (some payload) =>
        match await (s.asking payload) with
        | none => none
        | some (reply, u) => some (u.resumed reply) := by
  have free : ¬ (s.begun.note .startsFaking).delivering = true := by
    change ¬ s.delivering = true
    simp [idle]
  have eq : s.serve await (.start .deliverInit) = (s.begun.note .startsFaking).deliverInit await :=
    if_pos host
  rw [eq, deliverInit, if_neg free]
  rfl

/-- Serving a frame ends at once, or the init callback goes out and the rest is up to the wait. -/
theorem serveFrame_cases {await : Wait κ η} {f : Frame} {s t : Session κ η} {step : Step}
    (run : s.serveFrame await f = some (step, t)) :
    Served f s step t ∨ ∃ payload reply u, Asks f payload s ∧
      await (s.asking payload) = some (reply, u) ∧ step = .served ∧ t = u.resumed reply := by
  unfold serveFrame at run
  split at run
  · rename_i e malformed
    cases run
    exact .inl (.malformed malformed)
  · rename_i unmapped
    cases run
    exact .inl (.answer unmapped)
  · rename_i command decoded
    split at run
    · cases run
    · rename_i u served
      cases run
      cases command with
      | ping => cases served; exact .inl (.ping decoded)
      | print text => cases served; exact .inl (.print decoded)
      | alive => cases served; exact .inl (.alive decoded)
      | registerCall record => cases served; exact .inl (.registerCall decoded)
      | findNative caller name => cases served; exact .inl (.findNative decoded)
      | invokeNative caller request => cases served; exact .inl (.invokeNative decoded)
      | reconnect => cases served; exact .inl (.reconnect decoded)
      | disconnect => cases served; exact .inl (.disconnect decoded)
      | start mode =>
        cases mode with
        | waitForHost => cases served; exact .inl (.waits decoded)
        | restart => cases served; exact .inl (.restarts decoded)
        | unknown mode => cases served; exact .inl (.unknown decoded)
        | deliverInit =>
          rcases serve_deliverInit_cases decoded served with
            now | ⟨payload, reply, v, asks, wait, rfl⟩
          · exact .inl now
          · exact .inr ⟨payload, reply, v, asks, wait, rfl, rfl⟩

/-- A frame that is served at once leaves the link alone, unless it is a reconnect. -/
theorem Served.calm {f : Frame} {s t : Session κ η} {step : Step} (h : Served f s step t) :
    Calm s t ∨ s.status.isUp = true ∧ Command.decode f = .ok (some .reconnect) ∧
      Ended .expected s.expecting t := by
  cases h with
  | malformed => exact .inl (still_note _ s).calm
  | answer => exact .inl (Still.refl s).calm
  | ping => exact .inl (still_send _ _ s).calm
  | print => exact .inl (still_note _ s).calm
  | alive => exact .inl (Still.refl s).calm
  | registerCall => exact .inl (calm_enterCallback _ s)
  | findNative => exact .inl (calm_answerLookup _ _ s)
  | invokeNative => exact .inl (still_answerInvocation _ _ s).calm
  | reconnect decoded =>
    cases up : s.status.isUp with
    | true => exact .inr ⟨rfl, decoded, ended_disconnect none true (s := s.expecting) up⟩
    | false =>
      have down : s.expecting.status.isUp = false := up
      have eq : s.expecting.disconnect none true = s.expecting := if_neg (by simp [down])
      rw [eq]
      exact .inl ⟨rfl, fun h => by simp [up] at h, rfl, (still_note _ s).quiet, fun _ h => h⟩
  | disconnect =>
    have noted : Calm s (s.note .remoteDisconnecting) := (still_note _ s).calm
    exact .inl (noted.trans ⟨rfl, fun _ => .inr rfl, rfl, .of_eq rfl, fun _ h => h⟩)
  | waits => exact .inl ((calm_begun s).trans (still_note _ _).calm)
  | restarts =>
    exact .inl ((calm_begun s).trans ((still_note _ _).trans (still_restart _)).calm)
  | unknown => exact .inl ((calm_begun s).trans (still_note _ _).calm)
  | early => exact .inl ((calm_begun s).trans (still_note _ _).calm)
  | nested => exact .inl ((calm_begun s).trans ((still_note _ _).trans (still_note _ _)).calm)
  | unwritable => exact .inl ((calm_delivered s).trans (still_note _ _).calm)
  | unregistered => exact .inl (calm_delivered s)

/-- What one look at an open channel comes to. -/
inductive Took (await : Wait κ η) (s : Session κ η) : Step → Session κ η → Prop where
  | nothing {c : κ} (h : Channel.receive s.channel = (.nothing, c)) :
      Took await s .nothing { s with channel := c }
  | dead {c : κ} (h : Channel.receive s.channel = (.dead, c)) :
      Took await s .dead ({ s with channel := c }.disconnect (some connectionLost) false)
  | served {c : κ} {f : Frame} {step : Step} {t : Session κ η}
      (h : Channel.receive s.channel = (.frame f, c))
      (served : Served f ({ s with channel := c }.hear f) step t) : Took await s step t
  | asked {c : κ} {f : Frame} {payload : Bytes} {reply : Option Bytes} {u : Session κ η}
      (h : Channel.receive s.channel = (.frame f, c))
      (asks : Asks f payload ({ s with channel := c }.hear f))
      (waited : await (({ s with channel := c }.hear f).asking payload) = some (reply, u)) :
      Took await s .served (u.resumed reply)

/-- A poll ends a connection that the channel has lost, or finds nobody there, or takes a look. -/
theorem poll_cases {await : Wait κ η} {s t : Session κ η} {step : Step}
    (run : s.poll await = some (step, t)) :
    (s.status.isUp = true ∧ step = .dead ∧ t = s.disconnect (some connectionLost) false) ∨
      (Channel.isConnected s.channel = true ∨ s.status.isUp = false) ∧
        (s.connect = (false, t) ∧ step = .dead ∨
          ∃ u, s.connect = (true, u) ∧ Took await u step t) := by
  unfold poll at run
  split at run
  · rename_i lost
    cases run
    exact .inl ⟨(Bool.and_eq_true_iff.mp lost).1, rfl, rfl⟩
  · rename_i kept
    have kept : Channel.isConnected s.channel = true ∨ s.status.isUp = false := by
      cases connected : Channel.isConnected s.channel <;> simp_all
    refine .inr ⟨kept, ?_⟩
    split at run
    · rename_i u heq
      cases run
      exact .inl ⟨heq, rfl⟩
    · rename_i u heq
      refine .inr ⟨u, heq, ?_⟩
      split at run
      · rename_i c nothing
        cases run
        exact .nothing nothing
      · rename_i c dead
        cases run
        exact .dead dead
      · rename_i f c frame
        rcases serveFrame_cases run with served | ⟨payload, reply, v, asks, waited, rfl, rfl⟩
        · exact .served frame served
        · exact .asked frame asks waited

/-- A look at a link that is down, while nobody is at the door. -/
theorem poll_alone (await : Wait κ η) {s : Session κ η} (down : s.status.isUp = false)
    (alone : (s.connect).1 = false) : s.poll await = some (.dead, s.connect.2) := by
  have connect : s.connect = (false, s.connect.2) := by rw [← alone]
  unfold poll
  rw [if_neg (by simp [down]), connect]

end HostLink.Session
