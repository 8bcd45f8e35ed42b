import HostLink.Proofs.Session.Conversation

/-!
# HostLink.Proofs.Session.Refinement

The nested waits of a tick or a call do what the scanner does (`tick_scan`, `call_scan`). Serving a
command matches serving it on the desk; one look at the channel matches one step of the scanner, or
all the steps that a handshake takes (`Looked`); and what a wait or a tick comes to follows by
induction on the patience, which the script never outlasts.
-/

namespace HostLink.Session

open Scan

variable {κ η : Type} [Channel κ] [Host η]

namespace Matches

variable {conv : Conversation κ} {settings : SessionSettings} {delivering : Bool} {d : Desk η}
  {script : List Look} {s : Session κ η}

theorem enterCallback (m : Matches conv settings delivering d script s) (record : Bytes) :
    Matches conv settings delivering (d.serve settings (.registerCall record)) script
      (s.enterCallback record) := by
  have callbacks : d.callbacks = s.callbacks := m.desk ▸ rfl
  have firm := firm_enterCallback record s
  simp only [Desk.serve, callbacks]
  unfold Session.enterCallback at firm ⊢
  cases registered : s.callbacks.register record with
  | error e =>
    rw [registered] at firm
    exact m.unseen firm (desk_note _ s) rfl
  | ok entry =>
    rw [registered] at firm
    refine m.edit firm ?_ rfl rfl
    dsimp only
    rw [desk_note, desk_note, ← m.desk]
    rfl

theorem consulted (m : Matches conv settings delivering d script s) (name : String) :
    Matches conv settings delivering
      { d with
        natives := (d.natives.resolve name d.host).table
        host := (d.natives.resolve name d.host).host } script (s.consulted name) := by
  obtain rfl := m.desk
  have firm := s.firm_consulted name
  let done := s.natives.resolve name s.host
  let looked : Session κ η := { s with natives := done.table, host := done.host }
  unfold Session.consulted at firm ⊢
  dsimp only at firm ⊢
  cases answered : (s.natives.resolve name s.host).answer with
  | none =>
    rw [answered] at firm
    exact m.edit firm (desk_noteAll _ looked) rfl rfl
  | some answer =>
    rw [answered] at firm
    have recorded := desk_mute (e := .asked name answer) rfl rfl rfl looked
    exact m.edit firm ((desk_noteAll _ _).trans recorded) rfl rfl

theorem answerLookup (m : Matches conv settings delivering d script s) (up : d.status.isUp = true)
    (caller : UInt16) (name : String) :
    Matches conv settings delivering (d.serve settings (.findNative caller name)) script
      (s.answerLookup caller name) := by
  obtain rfl := m.desk
  have consulted := m.consulted name
  have resolved : s.desk.natives.resolve name s.desk.host = s.natives.resolve name s.host := rfl
  rw [Desk.serve, resolved]
  rcases answerLookup_cases caller name s with ⟨e, refused, eq⟩ | ⟨payload, encoded, eq⟩
  · rw [eq, refused]
    exact consulted.note _
  · rw [eq, encoded]
    exact consulted.send up _ _

theorem answerInvocation (m : Matches conv settings delivering d script s)
    (up : d.status.isUp = true) (caller : UInt16) (request : Bytes) :
    Matches conv settings delivering (d.serve settings (.invokeNative caller request)) script
      (s.answerInvocation caller request) := by
  obtain rfl := m.settings
  obtain rfl := m.desk
  simp only [Desk.serve]
  unfold Session.answerInvocation
  cases (Cell.Writer.empty s.settings.maxPayloadSize.toNat).put (.u16 caller) with
  | error e => exact m.note _
  | ok w =>
    let done := s.natives.invoke request w s.host
    let after : Session κ η := { s with host := done.host }
    let shown : Desk η := { s.desk with host := done.host }
    have invoked : Matches conv s.settings delivering shown script after :=
      m.edit (t := after) ⟨rfl, rfl, rfl⟩ rfl rfl rfl
    have refused : Matches conv s.settings delivering shown script
        (after.noteAll (done.asked.flatMap refusalNotices)) :=
      invoked.unseen ⟨rfl, rfl, rfl⟩ (desk_noteAll _ _) rfl
    exact (refused.note (invocationNotice request.length done.result)).send up _ _

theorem begun (m : Matches conv settings delivering d script s) :
    Matches conv settings delivering (d.serve settings (.start .deliverInit)) script s.begun := by
  obtain rfl := m.desk
  exact (m.note .remoteStarted).restate s.status.remoteStarted rfl

theorem restart (m : Matches conv settings delivering d script s) :
    Matches conv settings delivering (d.serve settings (.start .restart)) script
      (s.begun.note .startsRestarting).restart := by
  obtain rfl := m.settings
  obtain rfl := m.desk
  let noted := s.begun.note .startsRestarting
  have shown : Matches conv s.settings delivering _ script noted := m.begun.note .startsRestarting
  simp only [Desk.serve]
  unfold Session.restart
  by_cases hostInit : noted.status.hostInit = true
  · let command := s.settings.initCommand
    let running := noted.note (.running command)
    let after : Session κ η := { running with host := Host.execCommand command running.host }
    have served : Matches conv s.settings delivering _ script running := shown.note _
    rw [if_pos hostInit, if_pos ⟨trivial, hostInit⟩]
    refine m.edit (t := after.record (.command command)) ⟨rfl, rfl, rfl⟩ ?_ rfl rfl
    have desk : after.desk = { running.desk with host := Host.execCommand command s.host } := rfl
    rw [desk_record, desk, served.desk]
    simp [Desk.serve, Event.sent?, Event.received?, Event.command?, command, Session.desk]
  · rw [if_neg hostInit, if_neg fun h => hostInit h.2]
    exact shown

/-- Serving a command for which nobody has to wait. -/
theorem serve {command : Command} (m : Matches conv settings delivering d script s)
    (up : d.status.isUp = true) (leaves : command ≠ .reconnect)
    (asks : command ≠ .start .deliverInit) (await : Wait κ η) :
    ∃ t, s.serve await command = some t ∧
      Matches conv settings delivering (d.serve settings command) script t := by
  cases command with
  | ping => exact ⟨_, rfl, m.send up _ _⟩
  | print text => exact ⟨_, rfl, m.unseen ⟨rfl, rfl, rfl⟩ (desk_note _ s) rfl⟩
  | alive => exact ⟨s, rfl, m⟩
  | registerCall record => exact ⟨_, rfl, m.enterCallback record⟩
  | findNative caller name => exact ⟨_, rfl, m.answerLookup up caller name⟩
  | invokeNative caller request => exact ⟨_, rfl, m.answerInvocation up caller request⟩
  | reconnect => exact absurd rfl leaves
  | disconnect =>
    obtain rfl := m.desk
    exact ⟨_, rfl, (m.note .remoteDisconnecting).restate s.status.disconnectRequested rfl⟩
  | start mode =>
    cases mode with
    | waitForHost => exact ⟨_, rfl, m.begun.note _⟩
    | restart => exact ⟨_, rfl, m.restart⟩
    | deliverInit => exact absurd rfl asks
    | unknown mode => exact ⟨_, rfl, m.begun.note _⟩

omit [Host η] in
theorem resumed (m : Matches conv settings delivering d script s) (reply : Option Bytes) :
    Matches conv settings false d script (s.resumed reply) := by
  let lowered : Session κ η := { s with delivering := false }
  have lowered : Matches conv settings false d script lowered :=
    ⟨m.settings, rfl, m.desk, m.channel⟩
  exact lowered.unseen (firm_noteSilence _ _ _) (desk_noteSilence _ _ _) (channel_noteSilence _ _ _)

omit [Host η] in
theorem initCall_eq (m : Matches conv settings delivering d script s) :
    d.initCall settings = (s.callPayload 0 s.settings.initCallback []).toOption.join := by
  obtain rfl := m.settings
  obtain rfl := m.desk
  have callbacks : s.desk.callbacks = s.callbacks := rfl
  unfold Desk.initCall callPayload
  rw [callbacks]
  rcases s.callbacks.writeCall (some 0) s.settings.initCallback []
    (Cell.Writer.empty s.settings.maxPayloadSize.toNat) with ⟨_ | _ | _, w⟩ <;> rfl

/-- Serving a start that asks for the init callback: it is served at once, or the callback is called
and the rest is up to the wait. -/
theorem deliver (m : Matches conv settings delivering d script s) (up : d.status.isUp = true)
    (await : Wait κ η) :
    (∃ d' t, s.serve await (.start .deliverInit) = some t ∧
        Matches conv settings delivering d' script t ∧ d'.status.isUp = true ∧
        ∀ w, (.handshake ∈ w ↔ delivering = true) → d.deliver settings w = (w, d')) ∨
      (delivering = false ∧ ∃ d' b, Matches conv settings true d' script b ∧
        d'.status.isUp = true ∧
        (∀ w, .handshake ∉ w → d.deliver settings w = (.handshake :: w, d')) ∧
        ∀ reply u, await b = some (reply, u) →
          s.serve await (.start .deliverInit) = some (u.resumed reply)) := by
  obtain rfl := m.desk
  have begun := m.begun.note .startsFaking
  by_cases hostInit : s.status.hostInit = true
  · cases delivering with
    | true =>
      have eq : s.serve await (.start .deliverInit) =
          some ((s.begun.note .startsFaking).note .nestedStart) :=
        (if_pos hostInit).trans (if_pos m.delivering)
      refine .inl ⟨_, _, eq, begun.note _, up, fun w waits => ?_⟩
      exact Desk.deliver_kept fun _ => waits.mpr rfl
    | false =>
      have delivered : Matches conv settings false s.desk.started script s.delivered :=
        begun.restate s.status.remoteStarted.initDelivered rfl
      have initCall : s.desk.started.initCall settings =
          (s.delivered.callPayload 0 s.settings.initCallback []).toOption.join :=
        delivered.initCall_eq
      rw [serve_deliverInit_idle await hostInit m.delivering]
      rcases written : s.delivered.callPayload 0 s.settings.initCallback [] with e | _ | payload
      · rw [written] at initCall
        refine .inl ⟨s.desk.started, _, rfl, delivered.note _, up, fun w waits => ?_⟩
        exact Desk.deliver_passes hostInit (by simp [waits]) initCall
      · rw [written] at initCall
        refine .inl ⟨s.desk.started, _, rfl, delivered, up, fun w waits => ?_⟩
        exact Desk.deliver_passes hostInit (by simp [waits]) initCall
      · rw [written] at initCall
        let raised : Session κ η := { s.delivered with delivering := true }
        have raised : Matches conv settings true s.desk.started script raised :=
          ⟨delivered.settings, rfl, delivered.desk, delivered.channel⟩
        refine .inr ⟨rfl, _, s.asking payload, raised.send up _ payload, up,
          fun w free => Desk.deliver_opens hostInit free initCall, fun reply u waited => ?_⟩
        dsimp only
        rw [waited]
  · have eq : s.serve await (.start .deliverInit) = some (s.begun.note .startsFaking) :=
      if_neg hostInit
    exact .inl ⟨_, _, eq, begun, up, fun w _ => Desk.deliver_kept fun h => absurd h hostInit⟩

/-- Serving a reconnect. -/
theorem leave (m : Matches conv settings delivering d script s) (up : d.status.isUp = true)
    (await : Wait κ η) : ∃ t, s.serve await .reconnect = some t ∧
      Matches conv settings delivering (d.serve settings .reconnect) script t := by
  obtain rfl := m.desk
  let shown : Desk η := { s.desk with status := s.status.reconnectRequested }
  have expecting : Matches conv settings delivering shown script s.expecting :=
    (m.note .remoteReconnecting).restate s.status.reconnectRequested rfl
  have gone : conv.gone script (Channel.disconnect s.expecting.channel) :=
    conv.disconnect (expecting.plays up)
  exact ⟨_, rfl, .hangUp expecting.settings expecting.delivering expecting.desk up gone none true⟩

end Matches

/-- What serving a frame comes to, beside the reaction of the scanner. -/
inductive Reacts (conv : Conversation κ) (settings : SessionSettings) (delivering : Bool)
    (d : Desk η) (f : Frame) (rest : List Look) (await : Wait κ η) (s : Session κ η) : Prop where
  | onward {d' : Desk η} {t : Session κ η} (eq : s.serveFrame await f = some (.served, t))
      (m : Matches conv settings delivering d' rest t) (up : d'.status.isUp = true)
      (scan : ∀ w, (.handshake ∈ w ↔ delivering = true) → react settings w d f = .goesOn w d')
  | answer (unmapped : Command.decode f = .ok none)
      (eq : s.serveFrame await f = some (.answer f.payload, s))
  | left {d' : Desk η} {t : Session κ η} (eq : s.serveFrame await f = some (.served, t))
      (m : Matches conv settings delivering d' rest t) (down : d'.status.isUp = false)
      (scan : ∀ w, react settings w d f = .ends d' none)
  | asks (idle : delivering = false) {d' : Desk η} {b : Session κ η}
      (m : Matches conv settings true d' rest b) (up : d'.status.isUp = true)
      (scan : ∀ w, .handshake ∉ w → react settings w d f = .goesOn (.handshake :: w) d')
      (eq : ∀ reply u, await b = some (reply, u) →
        s.serveFrame await f = some (.served, u.resumed reply))

theorem Matches.reacts {conv : Conversation κ} {settings : SessionSettings} {delivering : Bool}
    {d : Desk η} {f : Frame} {rest : List Look} {s : Session κ η}
    (m : Matches conv settings delivering (d.hear f) rest s) (up : d.status.isUp = true)
    (await : Wait κ η) : Reacts conv settings delivering d f rest await s := by
  have frame {command : Command} (decoded : Command.decode f = .ok (some command))
      {t : Session κ η} (served : s.serve await command = some t) :
      s.serveFrame await f = some (.served, t) := by
    unfold serveFrame
    rw [decoded]
    dsimp only
    rw [served]
  rcases decoded : Command.decode f with e | _ | command
  · refine .onward (t := s.note (.malformed f.opcode e)) ?_ (m.note _) up fun w _ => ?_
    · unfold serveFrame
      rw [decoded]
    · unfold react
      rw [decoded]
  · refine .answer decoded ?_
    unfold serveFrame
    rw [decoded]
  · by_cases leaves : command = .reconnect
    · subst leaves
      obtain ⟨t, served, left⟩ := m.leave up await
      refine .left (frame decoded served) left rfl fun w => ?_
      unfold react
      rw [decoded]
    · by_cases asks : command = .start .deliverInit
      · subst asks
        rcases m.deliver up await with ⟨d', t, served, after, up, opens⟩ |
            ⟨idle, d', b, begun, up, opens, rest⟩
        · refine .onward (frame decoded served) after up fun w waits => ?_
          unfold react
          rw [decoded]
          dsimp only
          rw [opens w waits]
        · refine .asks idle begun up (fun w free => ?_) fun reply u waited =>
            frame decoded (rest reply u waited)
          unfold react
          rw [decoded]
          dsimp only
          rw [opens w free]
      · obtain ⟨t, served, after⟩ := m.serve up leaves asks await
        refine .onward (frame decoded served) after ?_ fun w _ => react_serve decoded leaves asks w
        have link := Desk.serve_link settings (d.hear f) leaves
        simp only [Status.isUp, link] at up ⊢
        exact up

/-- What one look comes to, beside the steps of the scanner. -/
inductive Looked (conv : Conversation κ) (settings : SessionSettings) (delivering : Bool)
    (d : Desk η) (script : List Look) : Step → Session κ η → Prop where
  | dead {t : Session κ η} (eq : script = [])
      (m : Matches conv settings delivering (d.hangUp (d.status.cause false)) [] t) :
      Looked conv settings delivering d script .dead t
  | nothing {rest : List Look} {t : Session κ η} (eq : script = .nothing :: rest)
      (m : Matches conv settings delivering d rest t) :
      Looked conv settings delivering d script .nothing t
  | onward {d' : Desk η} {rest : List Look} {t : Session κ η}
      (m : Matches conv settings delivering d' rest t) (up : d'.status.isUp = true)
      (shorter : rest.length < script.length)
      (scans : ∀ w, (.handshake ∈ w ↔ delivering = true) →
        scan settings w d script = scan settings w d' rest) :
      Looked conv settings delivering d script .served t
  | left {d' : Desk η} {rest : List Look} {t : Session κ η}
      (m : Matches conv settings delivering d' rest t) (down : d'.status.isUp = false)
      (scans : ∀ w, (.handshake ∈ w ↔ delivering = true) →
        scan settings w d script = ⟨d', none, rest⟩) :
      Looked conv settings delivering d script .served t
  | answer {f : Frame} {rest : List Look} {t : Session κ η} (eq : script = .frame f :: rest)
      (unmapped : Command.decode f = .ok none)
      (m : Matches conv settings delivering (d.hear f) rest t) :
      Looked conv settings delivering d script (.answer f.payload) t

/-- What the wait of a handshake comes to: it is answered, or the connection ends. -/
inductive Shaken (conv : Conversation κ) (settings : SessionSettings) (d : Desk η)
    (script : List Look) (t : Session κ η) : Prop where
  | answered {d' : Desk η} {rest : List Look} (m : Matches conv settings true d' rest t)
      (up : d'.status.isUp = true) (shorter : rest.length ≤ script.length)
      (scans : ∀ w, scan settings (.handshake :: w) d script = scan settings w d' rest)
  | cut {d' : Desk η} {rest : List Look} (m : Matches conv settings true d' rest t)
      (down : d'.status.isUp = false)
      (scans : ∀ w, scan settings (.handshake :: w) d script = ⟨d', none, rest⟩)

section Loops

variable {conv : Conversation κ} {settings : SessionSettings} {d : Desk η} {script : List Look}
  {s : Session κ η}

omit [Host η] in
theorem Matches.prepare {delivering : Bool} (m : Matches conv settings delivering d script s)
    (down : d.status.isUp = false) : Matches conv settings delivering d script s.prepare.2 := by
  unfold Session.prepare
  split
  · exact m
  · obtain ⟨desk, channel⟩ := setUp_view .setupFailed s
    have firm := firm_setUp .setupFailed s
    refine ⟨firm.settings.trans m.settings, firm.delivering.trans m.delivering,
      desk.trans m.desk, ?_⟩
    rw [if_neg (by simp [down]), channel]
    exact conv.setup (m.gone down)

omit [Host η] in
/-- When the connection is gone, nobody comes. -/
theorem Matches.alone {delivering : Bool} (m : Matches conv settings delivering d script s)
    (down : d.status.isUp = false) :
    (s.connect).1 = false ∧ Matches conv settings delivering d script s.connect.2 := by
  have prepared := m.prepare down
  obtain ⟨nobody, gone⟩ := conv.alone (prepared.gone down)
  have stays {c : κ} (h : conv.gone script c) :
      Matches conv settings delivering d script { s.prepare.2 with channel := c } :=
    ⟨prepared.settings, prepared.delivering, prepared.desk, by rwa [if_neg (by simp [down])]⟩
  have lost := conv.closed (m.gone down)
  unfold connect
  rw [if_neg (by simp [lost])]
  split
  · rename_i u heq
    rw [heq] at prepared
    exact ⟨rfl, prepared⟩
  · rename_i u heq
    rw [heq] at nobody gone stays
    dsimp only at nobody gone stays
    split
    · rename_i c came
      rw [came] at nobody
      exact absurd rfl nobody
    · rename_i c refused
      rw [refused] at gone
      exact ⟨rfl, stays gone⟩
    · rename_i e c failed
      rw [failed] at gone
      exact ⟨rfl, (stays gone).note _⟩

/-- A look after the connection is gone. -/
theorem Matches.poll_gone {delivering : Bool} (m : Matches conv settings delivering d script s)
    (down : d.status.isUp = false) (await : Wait κ η) :
    ∃ t, s.poll await = some (.dead, t) ∧ Matches conv settings delivering d script t := by
  obtain ⟨alone, stays⟩ := m.alone down
  exact ⟨s.connect.2, poll_alone await (m.isUp.trans down) alone, stays⟩

/-- One look at the channel. A handshake that it begins is over when it ends. -/
theorem poll_looked {delivering : Bool} (m : Matches conv settings delivering d script s)
    (up : d.status.isUp = true) (await : Wait κ η)
    (handshake : delivering = false → ∀ {d' : Desk η} {rest : List Look} {b : Session κ η},
      rest.length < script.length → Matches conv settings true d' rest b → d'.status.isUp = true →
      ∃ reply u, await b = some (reply, u) ∧ Shaken conv settings d' rest u) :
    ∃ step t, s.poll await = some (step, t) ∧ Looked conv settings delivering d script step t := by
  have plays := m.plays up
  have connected := conv.connected plays
  have stays : s.connect = (true, s) := by simp [connect, connected]
  unfold poll
  rw [if_neg (by simp [connected]), stays]
  dsimp only
  rcases script with _ | ⟨f | _, rest⟩
  · obtain ⟨c, received, gone⟩ := conv.death plays
    rw [received]
    have ended := Matches.hangUp (s := { s with channel := c }) m.settings m.delivering m.desk up
      gone (some connectionLost) false
    exact ⟨_, _, rfl, .dead rfl ended⟩
  · obtain ⟨c, received, plays⟩ := conv.frame plays
    rw [received]
    dsimp only
    let heard : Session κ η := { s with channel := c }.hear f
    have taken : Matches conv settings delivering (d.hear f) rest heard := by
      refine ⟨m.settings, m.delivering, ?_, ?_⟩
      · let opened : Session κ η :=
          { s with channel := c, detector := s.detector.interaction (Channel.now c) }
        have shown : opened.desk = d := m.desk
        have recorded : heard.desk = (opened.record (.received f)).desk := rfl
        rw [recorded, desk_record, shown]
        simp [Desk.hear, Event.sent?, Event.received?, Event.command?]
      · have same : (d.hear f).status = d.status := rfl
        rw [same, if_pos up]
        exact plays
    cases taken.reacts up await with
    | onward eq after up scans =>
      refine ⟨_, _, eq, .onward after up (by simp) fun w waits => ?_⟩
      rw [scan, scans w waits]
    | answer unmapped eq => exact ⟨_, _, eq, .answer rfl unmapped taken⟩
    | left eq after down scans =>
      refine ⟨_, _, eq, .left after down fun w _ => ?_⟩
      rw [scan, scans w]
    | asks idle begun up scans eq =>
      obtain ⟨reply, u, waited, shaken⟩ := handshake idle (by simp) begun up
      subst idle
      cases shaken with
      | answered after up shorter scans' =>
        refine ⟨_, _, eq reply u waited, .onward (after.resumed reply) up ?_ fun w waits => ?_⟩
        · simpa using Nat.lt_succ_of_le shorter
        · rw [scan, scans w (by simp [waits])]
          exact scans' w
      | cut after down scans' =>
        refine ⟨_, _, eq reply u waited, .left (after.resumed reply) down fun w waits => ?_⟩
        rw [scan, scans w (by simp [waits])]
        exact scans' w
  · obtain ⟨c, received, plays⟩ := conv.nothing plays
    rw [received]
    refine ⟨_, _, rfl, .nothing rfl ⟨m.settings, m.delivering, m.desk, ?_⟩⟩
    rwa [if_pos up]

theorem Shaken.before {d' : Desk η} {rest : List Look} {t : Session κ η}
    (shaken : Shaken conv settings d' rest t) (shorter : rest.length ≤ script.length)
    (scans : ∀ w,
      scan settings (.handshake :: w) d script = scan settings (.handshake :: w) d' rest) :
    Shaken conv settings d script t := by
  cases shaken with
  | answered m up shorter' scans' =>
    exact .answered m up (Nat.le_trans shorter' shorter) fun w => (scans w).trans (scans' w)
  | cut m down scans' => exact .cut m down fun w => (scans w).trans (scans' w)

/-- The wait of a handshake. -/
theorem awaitReply_shaken {patience : Nat} (enough : script.length + 2 ≤ patience)
    (m : Matches conv settings true d script s) (up : d.status.isUp = true) :
    ∃ reply t, awaitReply patience s = some (reply, t) ∧ Shaken conv settings d script t := by
  -- each look that does not end the wait takes something off the script, and leaves patience enough
  induction patience generalizing script d s with
  | zero => omega
  | succ n ih =>
    obtain ⟨step, t, polled, looked⟩ := poll_looked m up (awaitReply n) (by simp)
    rw [awaitReply, polled]
    cases looked with
    | dead eq after =>
      subst eq
      refine ⟨none, t, rfl, .cut after ?_ fun w => rfl⟩
      cases d.status.cause false <;> rfl
    | @nothing rest _ eq after =>
      subst eq
      simp only [List.length_cons] at enough
      obtain ⟨reply, u, waited, shaken⟩ := ih (by omega) after up
      exact ⟨reply, u, waited, shaken.before (by simp) fun w => if_neg (by simp)⟩
    | @onward d' rest _ after up shorter scans =>
      obtain ⟨reply, u, waited, shaken⟩ := ih (by omega) after up
      exact ⟨reply, u, waited, shaken.before (by omega) fun w => scans _ (by simp)⟩
    | left after down scans =>
      -- the end of the connection is served like any frame, so the wait takes one more look
      obtain ⟨k, rfl⟩ : ∃ k, n = k + 1 := ⟨n - 1, by omega⟩
      obtain ⟨u, dead, last⟩ := after.poll_gone down (awaitReply k)
      refine ⟨none, u, ?_, .cut last down fun w => scans _ (by simp)⟩
      dsimp only
      rw [awaitReply, dead]
    | @answer f rest _ eq unmapped after =>
      subst eq
      refine ⟨some f.payload, t, rfl, .answered after up (by simp) fun w => ?_⟩
      rw [scan, react, unmapped]

/-- The wait of a call. -/
theorem awaitReply_scan {patience : Nat} (enough : script.length + 2 ≤ patience)
    (m : Matches conv settings false d script s) (up : d.status.isUp = true) :
    ∃ t, awaitReply patience s = some ((scan settings [.call] d script).reply, t) ∧
      Matches conv settings false (scan settings [.call] d script).desk
        (scan settings [.call] d script).rest t := by
  induction patience generalizing script d s with
  | zero => omega
  | succ n ih =>
    obtain ⟨step, t, polled, looked⟩ := poll_looked m up (awaitReply n)
      fun _ _ _ _ shorter after up => awaitReply_shaken (by omega) after up
    rw [awaitReply, polled]
    cases looked with
    | dead eq after =>
      subst eq
      exact ⟨t, rfl, after⟩
    | @nothing rest _ eq after =>
      subst eq
      simp only [List.length_cons] at enough
      rw [scan, if_neg (by simp)]
      exact ih (by omega) after up
    | @onward d' rest _ after up shorter scans =>
      rw [scans _ (by simp)]
      exact ih (by omega) after up
    | left after down scans =>
      obtain ⟨k, rfl⟩ : ∃ k, n = k + 1 := ⟨n - 1, by omega⟩
      obtain ⟨u, dead, last⟩ := after.poll_gone down (awaitReply k)
      rw [scans _ (by simp)]
      refine ⟨u, ?_, last⟩
      dsimp only
      rw [awaitReply, dead]
    | @answer f rest _ eq unmapped after =>
      subst eq
      have ends : react settings [.call] d f = .ends (d.hear f) (some f.payload) := by
        rw [react, unmapped]
      rw [scan, ends]
      exact ⟨t, rfl, after⟩

/-- A tick after its heartbeat. -/
theorem drain_scan {patience : Nat} (enough : script.length + 2 ≤ patience)
    (m : Matches conv settings false d script s) (up : d.status.isUp = true) :
    ∃ t, s.drain patience = some t ∧
      Matches conv settings false (scan settings [] d script).desk
        (scan settings [] d script).rest t := by
  induction patience generalizing script d s with
  | zero => omega
  | succ n ih =>
    obtain ⟨step, t, polled, looked⟩ := poll_looked m up (awaitReply n)
      fun _ _ _ _ shorter after up => awaitReply_shaken (by omega) after up
    rw [drain, polled]
    cases looked with
    | dead eq after =>
      subst eq
      exact ⟨t, rfl, after⟩
    | nothing eq after =>
      subst eq
      exact ⟨t, rfl, after⟩
    | @onward d' rest _ after up shorter scans =>
      rw [scans _ (by simp)]
      exact ih (by omega) after up
    | left after down scans =>
      obtain ⟨k, rfl⟩ : ∃ k, n = k + 1 := ⟨n - 1, by omega⟩
      obtain ⟨u, dead, last⟩ := after.poll_gone down (awaitReply k)
      rw [scans _ (by simp)]
      refine ⟨u, ?_, last⟩
      dsimp only
      rw [drain, dead]
    | @answer f rest _ eq unmapped after =>
      subst eq
      simp only [List.length_cons] at enough
      have onward : react settings [] d f = .goesOn [] (d.hear f) := by
        rw [react, unmapped]
      rw [scan, onward]
      exact ih (by omega) (after.note _) up

end Loops

/-! ## The operations -/

/-- Whether a tick begins with a heartbeat. -/
def beats (s : Session κ η) : Bool :=
  s.isConnected && s.status.allows .heartbeat && !(s.detector.checkTick (Channel.now s.channel)).1

/-- A tick, told by the scanner: a heartbeat if one is due, and nobody waits. -/
def tickScan (script : List Look) (s : Session κ η) : Outcome η :=
  scan s.settings [] (if s.beats then s.desk.send Opcode.tick [] else s.desk) script

/-- A call, told by the scanner: the host waits if the call goes out, and else nothing is read. -/
def callScan (caller : UInt16) (name : String) (params : List Callback.Param)
    (script : List Look) (s : Session κ η) : Outcome η :=
  let (goes, s) := (s.observe name).gate name
  match goes, s.callPayload caller name params with
  | true, .ok (some payload) =>
    scan s.settings [.call] (s.desk.send Opcode.publicCall payload) script
  | _, _ => ⟨s.desk, none, script⟩

section Operations

variable {conv : Conversation κ} {settings : SessionSettings} {delivering : Bool} {d : Desk η}
  {script : List Look} {s : Session κ η}

omit [Host η] in
theorem Matches.heartbeat (m : Matches conv settings delivering d script s)
    (up : d.status.isUp = true) :
    Matches conv settings delivering (if s.beats then d.send Opcode.tick [] else d) script
      s.heartbeat := by
  unfold Session.heartbeat
  cases allowed : s.isConnected && s.status.allows .heartbeat with
  | false => simpa [beats, allowed] using m
  | true =>
    have beats : s.beats = !(s.detector.checkTick (Channel.now s.channel)).1 := by
      simp [Session.beats, allowed]
    have lowered : Matches conv settings delivering d script (s.setHolding false) :=
      m.unseen ⟨rfl, rfl, rfl⟩ (desk_setHolding false s) rfl
    have now : (s.setHolding false).detector.checkTick (Channel.now (s.setHolding false).channel) =
        s.detector.checkTick (Channel.now s.channel) := rfl
    rw [if_pos rfl, beats]
    unfold beat
    dsimp only
    rw [now]
    rcases s.detector.checkTick (Channel.now s.channel) with ⟨_ | _, detector, notices⟩
    · let due : Session κ η :=
        { s.setHolding false with detector := detector.heartbeat (Channel.now s.channel) }
      have noted : Matches conv settings delivering d script (due.noteAll notices) :=
        lowered.unseen ⟨rfl, rfl, rfl⟩ (desk_noteAll notices due) rfl
      exact noted.send up Opcode.tick []
    · let paused : Session κ η := { s.setHolding false with detector := detector }
      exact lowered.unseen ⟨rfl, rfl, rfl⟩ (desk_noteAll notices paused) rfl

omit [Host η] in
/-- What is checked before a call goes out leaves the link and the channel alone. -/
theorem Matches.gate (m : Matches conv settings delivering d script s) (name : String) :
    Matches conv settings delivering ((s.observe name).gate name).2.desk script
      ((s.observe name).gate name).2 := by
  have calm := (calm_observe name s).trans (calm_gate name (s.observe name)).1
  have link : d.status.link = s.status.link := m.desk ▸ rfl
  refine m.edit ((firm_observe name s).trans (firm_gate name (s.observe name))) rfl
    (calm.link.trans link.symm) ?_
  rw [channel_gate, channel_observe]

/-- The session agrees with what the scanner has come to, and the frames that the scanner read are
those that came in. -/
structure Agrees (conv : Conversation κ) (script : List Look) (s : Session κ η) (o : Outcome η)
    (t : Session κ η) : Prop where
  shows : Matches conv s.settings false o.desk o.rest t
  reads : ∃ taken, script = taken ++ o.rest ∧
    o.desk.received = s.desk.received ++ Look.frames taken

theorem tick_scan {patience : Nat} (enough : script.length + 2 ≤ patience)
    (m : Matches conv s.settings false s.desk script s) (up : s.status.isUp = true) :
    ∃ t, s.tick patience = some t ∧ Agrees conv script s (s.tickScan script) t := by
  let started : Desk η := if s.beats then s.desk.send Opcode.tick [] else s.desk
  have beaten : Matches conv s.settings false started script s.heartbeat := m.heartbeat up
  have same : started.status = s.status ∧ started.received = s.desk.received := by
    dsimp only [started]
    split <;> exact ⟨rfl, rfl⟩
  obtain ⟨t, drained, after⟩ := drain_scan enough beaten (same.1 ▸ up)
  obtain ⟨taken, read, heard⟩ := scan_reads s.settings [] started script
  exact ⟨t, drained, after, taken, read, by rw [← same.2]; exact heard⟩

theorem call_scan {patience : Nat} (enough : script.length + 2 ≤ patience)
    (m : Matches conv s.settings false s.desk script s) (up : s.status.isUp = true)
    (caller : UInt16) (name : String) (params : List Callback.Param) :
    ∃ t, s.call patience caller name params =
        some (replyValue (s.callScan caller name params script).reply, t) ∧
      Agrees conv script s (s.callScan caller name params script) t := by
  have gated := m.gate name
  have calm := (calm_observe name s).trans (calm_gate name (s.observe name)).1
  unfold call callScan
  rcases opened : (s.observe name).gate name with ⟨goes, u⟩
  rw [opened] at gated calm
  have settings : u.settings = s.settings := gated.settings
  have heard : u.desk.received = s.desk.received := calm.quiet.received
  have held {t : Session κ η} (after : Matches conv s.settings false u.desk script t) :
      Agrees conv script s ⟨u.desk, none, script⟩ t :=
    ⟨after, [], rfl, by rw [heard]; simp [Look.frames]⟩
  cases goes with
  | false => exact ⟨u, rfl, held gated⟩
  | true =>
    dsimp only
    rcases u.callPayload caller name params with e | _ | payload
    · exact ⟨_, rfl, held (gated.note (.notForwarded name e))⟩
    · exact ⟨u, rfl, held gated⟩
    · have upheld : u.status.isUp = true := calm.isUp.trans up
      have sent := gated.send upheld Opcode.publicCall payload
      obtain ⟨t, waited, after⟩ := awaitReply_scan enough sent upheld
      obtain ⟨taken, read, scanned⟩ :=
        scan_reads s.settings [.call] (u.desk.send Opcode.publicCall payload) script
      dsimp only
      rw [waited, settings]
      refine ⟨_, rfl, ?_, taken, read, ?_⟩
      · exact after.unseen (firm_noteSilence _ _ t) (desk_noteSilence _ _ t)
          (channel_noteSilence _ _ t)
      · rw [scanned, ← heard]
        rfl

/-- A tick or call that finds its runtime connected, and a script that ends with its death, does
what the scanner does: so it ends, with the answer that the scanner finds. On the scanner's stack
there is at most one handshake, above at most one call. -/
theorem operations_scan {s : Session κ η} (reached : Reachable s) (up : s.status.isUp = true)
    (plays : conv.plays script s.channel) {patience : Nat}
    (enough : script.length + 2 ≤ patience) :
    (∃ t, s.tick patience = some t ∧ Agrees conv script s (s.tickScan script) t) ∧
    (∀ caller name params, ∃ t, s.call patience caller name params =
        some (replyValue (s.callScan caller name params script).reply, t) ∧
      Agrees conv script s (s.callScan caller name params script) t) ∧
    (∀ w (d : Desk η) f w' d', w.Sublist [.handshake, .call] →
      react s.settings w d f = .goesOn w' d' → w'.Sublist [.handshake, .call]) := by
  obtain ⟨deeds, run⟩ := reached
  have m : Matches conv s.settings false s.desk script s :=
    ⟨rfl, run.idle, rfl, (if_pos up).symm ▸ plays⟩
  exact ⟨tick_scan enough m up, call_scan enough m up, fun w d f w' d' => react_stacked⟩

end Operations

/-- A runtime that registers two callbacks, waits for the host, and answers its first call. -/
def engaging : Scripted.Wire :=
  { dieWhenDrained := true
    peers := [.visit [
      .frame ⟨Opcode.registerCall,
        [79, 110, 71, 97, 109, 101, 77, 111, 100, 101, 73, 110, 105, 116, 0]⟩,
      .frame ⟨Opcode.registerCall, [79, 110, 70, 111, 111, 0]⟩, .frame ⟨Opcode.start, [0]⟩,
      .nothing, .frame ⟨32, [1, 1, 0, 0, 0]⟩]] }

/-- While the host waits for the value of its call the runtime starts anew: the first answer is for
the init callback that is then delivered, the second for the call, and a ping is left. -/
theorem operations_scan_nested : ∃ s t : Session Scripted.Wire Scripted.Catalog, ∃ script,
    Reachable s ∧ s.status.isUp = true ∧ Scripted.Wire.conversation.plays script s.channel ∧
      script.length = 5 ∧ s.call 9 0 "OnFoo" [] = some (some 7, t) ∧
      Matches Scripted.Wire.conversation s.settings false (s.callScan 0 "OnFoo" [] script).desk
        [.frame ⟨Opcode.ping, []⟩] t := by
  let script : List Look := [.frame ⟨Opcode.start, [2]⟩, .frame ⟨32, []⟩, .nothing,
    .frame ⟨32, [1, 7, 0, 0, 0]⟩, .frame ⟨Opcode.ping, []⟩]
  have shown : ((launched engaging (script.map Look.item)).map fun s => (s.status.isUp,
      decide (s.channel.connected = true ∧ s.channel.sendFail = 0 ∧
        s.channel.dieWhenDrained = true ∧ s.channel.peers = [] ∧
        s.channel.inbound = script.map Look.item),
      replyValue (s.callScan 0 "OnFoo" [] script).reply,
      (s.callScan 0 "OnFoo" [] script).rest)) =
      some (true, true, some 7, [.frame ⟨Opcode.ping, []⟩]) := by decide
  obtain ⟨s, started, shown⟩ := Option.map_eq_some_iff.mp shown
  obtain ⟨up, shown⟩ := Prod.mk.inj shown
  obtain ⟨fits, shown⟩ := Prod.mk.inj shown
  obtain ⟨value, rest⟩ := Prod.mk.inj shown
  have fits := of_decide_eq_true fits
  have plays : Scripted.Wire.conversation.plays script s.channel := fits
  have reached := reachable_launched rfl started
  obtain ⟨-, calls, -⟩ := operations_scan reached up plays (show script.length + 2 ≤ 9 by decide)
  obtain ⟨t, called, agrees⟩ := calls 0 "OnFoo" []
  rw [value] at called
  have shows := agrees.shows
  rw [rest] at shows
  exact ⟨s, t, script, reached, up, plays, rfl, called, shows⟩

end HostLink.Session
