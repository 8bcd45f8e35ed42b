import HostLink.Proofs.Session.Handshake
import HostLink.Proofs.Session.Logged
import HostLink.Proofs.Session.Succession
import HostLink.Session.Patience

/-!
# HostLink.Proofs.Session.Ending

A tick and a call come to their end if their channel has only so much to deliver. Their loops go on
only after a look that has found something, and a handshake begins only after a frame; so each look
after which a loop goes on, and the wait inside a handshake, leave less to be delivered
(`poll_spends`, `poll_needs`). Peers may come and go as they like meanwhile, and their frames may be
what they like.

The loops go through each other by way of a handshake, but no more than once: a loop whose looks
could wait in no handshake inside a handshake does the same (`awaitReply_eq`, `drain_eq`).

* `operations_end` — both, with what is left to the next operation.
-/

namespace HostLink.Session

variable {κ η : Type} [Channel κ] [Host η]

theorem logs_connect (s : Session κ η) : Logs s s.connect.2 := by
  have performed : s.perform 0 .connect = some s.connect.2 := rfl
  exact operations_logged performed

omit [Host η] in
/-- The call of the init callback goes out over a channel that is later than the frame. -/
theorem later_asking {s : Session κ η} (c : κ) (f : Frame) (payload : Bytes) :
    Channel.Later c (({ s with channel := c }.hear f).asking payload).channel :=
  (logs_asking payload ({ s with channel := c }.hear f)).later

/-! ## What a loop leaves -/

/-- A poll that does not find the connection dead has made use of what there was to deliver. -/
theorem poll_spends {patience : Nat} {s t : Session κ η} {step : Step}
    (run : s.poll (awaitReply patience) = some (step, t)) (alive : step ≠ .dead) :
    Channel.Spent t.channel s.channel := by
  have wait : (awaitReply patience : Wait κ η).Keeps Logs := conduct_logs.awaitReply patience
  rcases poll_cases run with ⟨-, dead, -⟩ | ⟨-, ⟨-, dead⟩ | ⟨u, connected, took⟩⟩
  · exact absurd dead alive
  · exact absurd dead alive
  · have before : Channel.Later s.channel u.channel := by
      have led := (logs_connect s).later
      rw [connected] at led
      exact led
    have looked {r : Received} {c : κ} (h : Channel.receive u.channel = (r, c))
        (came : r ≠ .dead) (after : Channel.Later c t.channel) :
        Channel.Spent t.channel s.channel := by
      refine ⟨u.channel, before, ?_, ?_⟩
      · rw [h]
        exact came
      · rw [h]
        exact after
    cases took with
    | nothing h => exact looked h (by simp) .refl
    | dead h => exact absurd rfl alive
    | served h served => exact looked h (by simp) served.logs.later
    | @asked c f payload reply v h asks waited =>
      have resumed : (v.resumed reply).channel = v.channel := channel_noteSilence _ _ _
      refine looked h (by simp) ?_
      rw [resumed]
      exact (later_asking c f payload).trans (wait waited).later

/-- A poll comes to its end if every wait that begins with less to deliver does. -/
theorem poll_ends {s : Session κ η} (waits : ∀ u : Session κ η,
    Channel.Spent u.channel s.channel → ∃ n r, awaitReply n u = some r) :
    ∃ n step t, s.poll (awaitReply n) = some (step, t) := by
  rcases s.poll_needs with ⟨⟨step, t⟩, now⟩ | ⟨u, c, f, payload, connect, receive, asks, needs⟩
  · exact ⟨0, step, t, now _⟩
  · have spent : Channel.Spent (({ u with channel := c }.hear f).asking payload).channel
        s.channel := by
      have before := (logs_connect s).later
      have after := later_asking (s := u) c f payload
      rw [connect] at before
      exact ⟨u.channel, before, by rw [receive]; simp, by rw [receive]; exact after⟩
    obtain ⟨n, ⟨reply, v⟩, waited⟩ := waits _ spent
    refine ⟨n, .served, v.resumed reply, ?_⟩
    rw [needs, waited]
    rfl

/-- A wait comes to its end if there is only so much to deliver. -/
theorem awaitReply_ends {s : Session κ η} (limited : Channel.Limited s.channel) :
    ∃ n r, awaitReply n s = some r := by
  generalize at_ : s.channel = c at limited
  induction limited generalizing s with
  | intro c _ ih =>
    subst at_
    obtain ⟨n, step, t, polled⟩ := poll_ends fun u spent => ih u.channel spent rfl
    have onward (alive : step ≠ .dead) : ∃ m r, awaitReply m t = some r :=
      ih t.channel (poll_spends polled alive) rfl
    -- a look and the rest of the wait, each with its patience, fit into the greater of the two
    have both {m : Nat} {r : Option Bytes × Session κ η} (rest : awaitReply m t = some r) :
        s.poll (awaitReply (max n m)) = some (step, t) ∧ awaitReply (max n m) t = some r :=
      ⟨(awaitReply_le (Nat.le_max_left n m)).poll polled,
        awaitReply_le (Nat.le_max_right n m) _ _ rest⟩
    cases step with
    | answer payload =>
      refine ⟨n + 1, (some payload, t), ?_⟩
      simp only [awaitReply, polled]
    | dead =>
      refine ⟨n + 1, (none, t), ?_⟩
      simp only [awaitReply, polled]
    | served =>
      obtain ⟨m, r, rest⟩ := onward (by simp)
      obtain ⟨polled, rest⟩ := both rest
      refine ⟨max n m + 1, r, ?_⟩
      simp only [awaitReply, polled, rest]
    | nothing =>
      obtain ⟨m, r, rest⟩ := onward (by simp)
      obtain ⟨polled, rest⟩ := both rest
      refine ⟨max n m + 1, r, ?_⟩
      simp only [awaitReply, polled, rest]

theorem drain_le {few many : Nat} (h : few ≤ many) {s t : Session κ η}
    (run : s.drain few = some t) : s.drain many = some t := by
  induction h with
  | refl => exact run
  | step _ ih => exact drain_succ ih

/-- What has come in is served to its end if there is only so much to deliver. -/
theorem drain_ends {s : Session κ η} (limited : Channel.Limited s.channel) :
    ∃ n t, s.drain n = some t := by
  generalize at_ : s.channel = c at limited
  induction limited generalizing s with
  | intro c acc ih =>
    subst at_
    obtain ⟨n, step, t, polled⟩ := poll_ends fun u spent => awaitReply_ends (acc u.channel spent)
    have onward (alive : step ≠ .dead) {u : Session κ η} (same : u.channel = t.channel) :
        ∃ m v, u.drain m = some v :=
      ih u.channel (same ▸ poll_spends polled alive) rfl
    have both {m : Nat} {u v : Session κ η} (rest : u.drain m = some v) :
        s.poll (awaitReply (max n m)) = some (step, t) ∧ u.drain (max n m) = some v :=
      ⟨(awaitReply_le (Nat.le_max_left n m)).poll polled, drain_le (Nat.le_max_right n m) rest⟩
    cases step with
    | served =>
      obtain ⟨m, v, rest⟩ := onward (by simp) rfl
      obtain ⟨polled, rest⟩ := both rest
      refine ⟨max n m + 1, v, ?_⟩
      simp only [drain, polled, rest]
    | answer payload =>
      obtain ⟨m, v, rest⟩ := onward (by simp) (u := t.note (.strayReply payload.length)) rfl
      obtain ⟨polled, rest⟩ := both rest
      refine ⟨max n m + 1, v, ?_⟩
      simp only [drain, polled, rest]
    | nothing =>
      refine ⟨n + 1, t, ?_⟩
      simp only [drain, polled]
    | dead =>
      refine ⟨n + 1, t, ?_⟩
      simp only [drain, polled]

theorem tick_ends {s : Session κ η} (limited : Channel.Limited s.channel) :
    ∃ n t, s.tick n = some t := by
  have begun : Channel.Later s.channel s.heartbeat.channel := by
    unfold heartbeat
    split
    · exact (logs_beat (s.setHolding false)).later
    · exact .refl
  exact drain_ends (limited.later begun)

theorem call_ends {s : Session κ η} (limited : Channel.Limited s.channel) (caller : UInt16)
    (name : String) (params : List Callback.Param) :
    ∃ n r, s.call n caller name params = some r := by
  have same : ((s.observe name).gate name).2.channel = s.channel :=
    (channel_gate _ _).trans (channel_observe _ _)
  rcases gate : (s.observe name).gate name with ⟨open_, u⟩
  rw [gate] at same
  cases open_ with
  | false => exact ⟨0, (none, u), by simp only [call, gate]⟩
  | true =>
    cases written : u.callPayload caller name params with
    | error e =>
      refine ⟨0, (none, u.note (.notForwarded name e)), ?_⟩
      simp only [call, gate, written]
    | ok payload =>
      cases payload with
      | none => exact ⟨0, (none, u), by simp only [call, gate, written]⟩
      | some payload =>
        have sent := (logs_send Opcode.publicCall payload u).later
        rw [same] at sent
        obtain ⟨n, ⟨reply, v⟩, waited⟩ := awaitReply_ends (limited.later sent)
        refine ⟨n, (replyValue reply, v.noteSilence name reply), ?_⟩
        simp only [call, gate, written, waited]

/-! ## How deep the loops go through each other -/

/-- A wait that never comes to an end. -/
def noWait : Wait κ η := fun _ => none

/-- What a wait ends with after a look, if it does. -/
def Step.reply? : Step → Option (Option Bytes)
  | .served => none
  | .answer payload => some (some payload)
  | .nothing => none
  | .dead => some none

/-- With what a tick goes on after a look, if it does. -/
def Step.onward? (s : Session κ η) : Step → Option (Session κ η)
  | .served => some s
  | .answer payload => some (s.note (.strayReply payload.length))
  | .nothing => none
  | .dead => none

/-- The loop of a call, where the handshakes that begin in it wait as `inner` says. -/
def awaitIn (inner : Nat → Wait κ η) : Nat → Wait κ η
  | 0, _ => none
  | patience + 1, s => (s.poll (inner patience)).bind fun r =>
    r.1.reply?.elim (awaitIn inner patience r.2) fun reply => some (reply, r.2)

/-- The loop of a tick, where the handshakes that begin in it wait as `inner` says. -/
def drainIn (inner : Nat → Wait κ η) : Nat → Session κ η → Option (Session κ η)
  | 0, _ => none
  | patience + 1, s => (s.poll (inner patience)).bind fun r =>
    (r.1.onward? r.2).elim (some r.2) (drainIn inner patience)

theorem awaitReply_succ_eq (patience : Nat) (s : Session κ η) :
    awaitReply (patience + 1) s = (s.poll (awaitReply patience)).bind fun r =>
      r.1.reply?.elim (awaitReply patience r.2) fun reply => some (reply, r.2) := by
  rw [awaitReply]
  cases s.poll (awaitReply patience) with
  | none => rfl
  | some r =>
    obtain ⟨step, t⟩ := r
    cases step <;> rfl

theorem drain_succ_eq (patience : Nat) (s : Session κ η) :
    s.drain (patience + 1) = (s.poll (awaitReply patience)).bind fun r =>
      (r.1.onward? r.2).elim (some r.2) (drain patience) := by
  rw [drain]
  cases s.poll (awaitReply patience) with
  | none => rfl
  | some r =>
    obtain ⟨step, t⟩ := r
    cases step <;> rfl

/-- A poll looks for the wait of a session that is in a handshake, and for no other. -/
theorem poll_congr {a b : Wait κ η} (agree : ∀ u : Session κ η, u.delivering = true → a u = b u)
    (s : Session κ η) : s.poll a = s.poll b := by
  rcases s.poll_needs with ⟨r, now⟩ | ⟨u, c, f, payload, -, -, -, needs⟩
  · rw [now, now]
  · have busy : (({ u with channel := c }.hear f).asking payload).delivering = true :=
      (firm_send _ _ _).delivering
    rw [needs, needs, agree _ busy]

/-- In a handshake no other begins, so that it waits in none. -/
theorem awaitReply_busy (patience : Nat) {s : Session κ η} (busy : s.delivering = true) :
    awaitReply patience s = awaitIn (fun _ => noWait) patience s := by
  induction patience generalizing s with
  | zero => rfl
  | succ n ih =>
    rw [awaitReply_succ_eq, awaitIn, poll_busy (awaitReply n) noWait busy]
    rcases polled : s.poll noWait with _ | ⟨step, t⟩
    · rfl
    · have never : (noWait : Wait κ η).Keeps Firm := fun run => by cases run
      have firm : Firm s t := conduct_firm.poll never polled
      have kept : t.delivering = true := firm.delivering.trans busy
      simp only [Option.bind_some, ih kept]

/-- The handshakes that begin in a look are the only ones. -/
theorem poll_once (patience : Nat) (s : Session κ η) :
    s.poll (awaitReply patience) = s.poll (awaitIn (fun _ => noWait) patience) :=
  poll_congr (fun _ busy => awaitReply_busy patience busy) s

theorem awaitReply_eq :
    (awaitReply : Nat → Wait κ η) = awaitIn (awaitIn fun _ => noWait) := by
  funext patience s
  induction patience generalizing s with
  | zero => rfl
  | succ n ih =>
    have ih : (awaitReply n : Wait κ η) = awaitIn (awaitIn fun _ => noWait) n := funext ih
    rw [awaitReply_succ_eq, awaitIn, poll_once, ih]

theorem drain_eq :
    (drain : Nat → Session κ η → Option (Session κ η)) = drainIn (awaitIn fun _ => noWait) := by
  funext patience s
  induction patience generalizing s with
  | zero => rfl
  | succ n ih =>
    have ih : (drain n : Session κ η → Option (Session κ η)) = drainIn (awaitIn fun _ => noWait) n :=
      funext ih
    rw [drain_succ_eq, drainIn, poll_once, ih]

/-- Over a channel that has only so much to deliver, a tick and a call come to their end, whatever
the frames are, with a session that more patience does not change; and then, as after a connect, the
channel still has only so much. Handshakes begin in the looks of either loop, and none begins in the
looks of a handshake. -/
theorem operations_end {s : Session κ η} (limited : Channel.Limited s.channel) :
    (∃ t, Channel.Limited t.channel ∧
      ∃ patience, ∀ more, patience ≤ more → s.tick more = some t) ∧
    (∀ caller name params, ∃ value t, Channel.Limited t.channel ∧
      ∃ patience, ∀ more, patience ≤ more → s.call more caller name params = some (value, t)) ∧
    Channel.Limited s.connect.2.channel ∧
    (awaitReply : Nat → Wait κ η) = awaitIn (awaitIn fun _ => noWait) ∧
    (drain : Nat → Session κ η → Option (Session κ η)) = drainIn (awaitIn fun _ => noWait) := by
  refine ⟨?_, ?_, limited.later (logs_connect s).later, awaitReply_eq, drain_eq⟩
  · obtain ⟨patience, t, ticked⟩ := tick_ends limited
    exact ⟨t, limited.later (conduct_logs.tick ticked).later, patience,
      fun _ more => tick_le more ticked⟩
  · intro caller name params
    obtain ⟨patience, ⟨value, t⟩, called⟩ := call_ends limited caller name params
    exact ⟨value, t, limited.later (conduct_logs.call called).later, patience,
      fun _ more => call_le more called⟩

/-- Two runtimes at the door. The first asks for the init callback and, instead of an answer, asks
for it again, sends a start that is malformed, and says that it will come back; the second is lost
as soon as it has come. -/
def hecklers : Scripted.Wire :=
  { peers := [.visit [.frame ⟨Opcode.registerCall, Utf8.encode "OnGameModeInit" ++ [0]⟩,
      .frame ⟨Opcode.start, [2]⟩, .frame ⟨Opcode.start, [2]⟩, .frame ⟨Opcode.start, [2, 2]⟩,
      .frame ⟨Opcode.reconnect, []⟩], .visit [.dead]] }

/-- A tick of a host whose script has begun comes to its end when both have gone. -/
theorem operations_end_hecklers : ∃ t : Session Scripted.Wire Scripted.Catalog,
    (∃ patience, ((rehearsal hecklers).observe "OnGameModeInit").tick patience = some t) ∧
    t.journal.lifecycles = [.starting, .connected, .disconnected, .connected, .error] := by
  let s := (rehearsal hecklers).observe "OnGameModeInit"
  have limited : Channel.Limited s.channel := Scripted.Wire.limited _
  obtain ⟨⟨t, -, patience, ends⟩, -⟩ := operations_end limited
  have shown : (s.tick 9).map (·.journal.lifecycles) =
      some [.starting, .connected, .disconnected, .connected, .error] := by decide
  obtain ⟨u, ticked, reported⟩ := Option.map_eq_some_iff.mp shown
  have same : some u = some t :=
    (tick_le (Nat.le_max_left 9 patience) ticked).symm.trans (ends _ (Nat.le_max_right 9 patience))
  cases same
  exact ⟨t, ⟨9, ticked⟩, reported⟩

end HostLink.Session
