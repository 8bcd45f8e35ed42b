import HostLink.Proofs.Session.Course
import HostLink.Proofs.Session.Memory
import HostLink.Proofs.Session.Permission

/-!
# HostLink.Proofs.Session.Handshake

The handshakes of a session. A runtime that starts may want the init callback; the session calls it
and waits for the answer, and what comes in during that wait may be another start. A pace is a
stride together with the number of handshakes that are under way before it and after it (`Pace`).
Every operation of the host paces from none under way to none (`perform_paces`), and there is never
more than one (`Paces.marked`), since a session that delivers an init callback does not look for a
wait (`poll_busy`).

* `reachable_consistent` — what holds of a session between the host's deeds and inside of them.
-/

namespace HostLink.Session

variable {κ η : Type} [Channel κ] [Host η]

/-! ## A session that delivers an init callback -/

/-- A start that comes during a delivery is refused, whatever a wait would do. -/
theorem serve_deliverInit_busy (await : Wait κ η) {s : Session κ η}
    (host : s.status.hostInit = true) (busy : s.delivering = true) :
    s.serve await (.start .deliverInit) =
      some ((s.begun.note .startsFaking).note .nestedStart) := by
  have begun : s.serve await (.start .deliverInit) =
      (s.begun.note .startsFaking).deliverInit await := if_pos host
  have refused : (s.begun.note .startsFaking).deliverInit await =
      some ((s.begun.note .startsFaking).note .nestedStart) := if_pos busy
  rw [begun, refused]

theorem serve_deliverInit_early (await : Wait κ η) {s : Session κ η}
    (host : s.status.hostInit = false) :
    s.serve await (.start .deliverInit) = some (s.begun.note .startsFaking) := by
  have early : ¬ s.status.remoteStarted.hostInit = true := by simp [Status.remoteStarted, host]
  exact if_neg early

/-- A frame is served at once, or its call goes out and one wait decides what comes of it. -/
theorem serveFrame_needs (f : Frame) (s : Session κ η) :
    (∃ r, ∀ await : Wait κ η, s.serveFrame await f = some r) ∨
      ∃ payload, Asks f payload s ∧ ∀ await : Wait κ η, s.serveFrame await f =
        (await (s.asking payload)).map fun r => (.served, r.2.resumed r.1) := by
  have now {t : Session κ η} {command : Command} (decoded : Command.decode f = .ok (some command))
      (served : ∀ await : Wait κ η, s.serve await command = some t) :
      ∃ r, ∀ await : Wait κ η, s.serveFrame await f = some r := by
    refine ⟨(.served, t), ?_⟩
    intro await
    simp only [serveFrame, decoded, served]
  cases decoded : Command.decode f with
  | error e =>
    exact .inl ⟨(.served, s.note (.malformed f.opcode e)),
      fun await => by simp only [serveFrame, decoded]⟩
  | ok command =>
    cases command with
    | none =>
      exact .inl ⟨(.answer f.payload, s), fun await => by simp only [serveFrame, decoded]⟩
    | some command =>
      by_cases start : command = .start .deliverInit
      · subst start
        cases host : s.status.hostInit with
        | false => exact .inl (now decoded fun await => serve_deliverInit_early await host)
        | true =>
          cases busy : s.delivering with
          | true => exact .inl (now decoded fun await => serve_deliverInit_busy await host busy)
          | false =>
            have eq := fun await : Wait κ η => serve_deliverInit_idle await host busy
            cases ready : s.delivered.callPayload 0 s.settings.initCallback [] with
            | error e => exact .inl (now decoded fun await => by rw [eq, ready])
            | ok called =>
              cases called with
              | none => exact .inl (now decoded fun await => by rw [eq, ready])
              | some payload =>
                refine .inr ⟨payload, ⟨decoded, host, busy, ready⟩, ?_⟩
                intro await
                simp only [serveFrame, decoded, eq, ready]
                cases await (s.asking payload) <;> rfl
      · cases command with
        | start mode =>
          cases mode with
          | deliverInit => exact absurd rfl start
          | _ => exact .inl (now decoded fun await => rfl)
        | _ => exact .inl (now decoded fun await => rfl)

/-- A poll comes to its end at once, or one wait decides what comes of it: the wait for the answer to
the init callback, in a session that was in no handshake before. -/
theorem poll_needs (s : Session κ η) :
    (∃ r, ∀ await : Wait κ η, s.poll await = some r) ∨
      ∃ u c f payload, s.connect = (true, u) ∧ Channel.receive u.channel = (.frame f, c) ∧
        Asks f payload ({ u with channel := c }.hear f) ∧ ∀ await : Wait κ η, s.poll await =
          (await (({ u with channel := c }.hear f).asking payload)).map
            fun r => (.served, r.2.resumed r.1) := by
  by_cases lost : (s.status.isUp && !Channel.isConnected s.channel) = true
  · exact .inl ⟨_, fun await => if_pos lost⟩
  · have kept := fun await : Wait κ η => show s.poll await = _ from if_neg lost
    rcases connect : s.connect with ⟨came, u⟩
    cases came with
    | false => exact .inl ⟨(.dead, u), fun await => by rw [kept, connect]⟩
    | true =>
      rcases receive : Channel.receive u.channel with ⟨received, c⟩
      cases received with
      | nothing =>
        exact .inl ⟨(.nothing, { u with channel := c }),
          fun await => by rw [kept, connect]; simp only [receive]⟩
      | dead =>
        exact .inl ⟨(.dead, { u with channel := c }.disconnect (some connectionLost) false),
          fun await => by rw [kept, connect]; simp only [receive]⟩
      | frame f =>
        have eq (await : Wait κ η) :
            s.poll await = ({ u with channel := c }.hear f).serveFrame await f := by
          rw [kept, connect]
          simp only [receive]
        rcases serveFrame_needs f ({ u with channel := c }.hear f) with
          ⟨r, served⟩ | ⟨payload, asks, served⟩
        · exact .inl ⟨r, fun await => (eq await).trans (served await)⟩
        · exact .inr ⟨u, c, f, payload, rfl, receive, asks,
            fun await => (eq await).trans (served await)⟩

/-- During a delivery no poll depends on what a wait would do. -/
theorem poll_busy (await await' : Wait κ η) {s : Session κ η} (busy : s.delivering = true) :
    s.poll await = s.poll await' := by
  rcases s.poll_needs with ⟨r, now⟩ | ⟨u, c, f, payload, connect, -, asks, -⟩
  · rw [now, now]
  · have kept := s.firm_connect.delivering
    rw [connect, busy] at kept
    cases kept.symm.trans asks.idle

/-- A start that wants the init callback is not refused: the call goes out and is waited for, unless
the runtime has not registered the callback or the call does not fit. -/
structure Admits (s : Session κ η) : Prop where
  asks (await : Wait κ η) {payload : Bytes}
    (ready : s.delivered.callPayload 0 s.settings.initCallback [] = .ok (some payload)) :
    s.serve await (.start .deliverInit) =
      (await (s.asking payload)).map fun r => r.2.resumed r.1
  unregistered (await : Wait κ η)
    (absent : s.delivered.callPayload 0 s.settings.initCallback [] = .ok none) :
    s.serve await (.start .deliverInit) = some s.delivered
  unwritable (await : Wait κ η) {e : Fault}
    (bad : s.delivered.callPayload 0 s.settings.initCallback [] = .error e) :
    s.serve await (.start .deliverInit) =
      some (s.delivered.note (.notForwarded s.settings.initCallback e))

theorem admits_idle {s : Session κ η} (host : s.status.hostInit = true)
    (idle : s.delivering = false) : s.Admits where
  asks await payload ready := by
    rw [serve_deliverInit_idle await host idle, ready]
    dsimp only
    cases await (s.asking payload) <;> rfl
  unregistered await absent := by
    rw [serve_deliverInit_idle await host idle, absent]
  unwritable await e bad := by
    rw [serve_deliverInit_idle await host idle, bad]

/-! ## Paces -/

/-- A stride, and how many handshakes are under way before it and after it. A handshake begins when
the init callback goes out and ends when its wait is over; all other strides leave the mark of a
delivery alone. -/
inductive Pace : Nat × Session κ η → Nat × Session κ η → Prop where
  | level {d : Nat} {s t : Session κ η} (stride : Stride s t)
      (mark : t.delivering = s.delivering) : Pace (d, s) (d, t)
  | asked {d : Nat} {s : Session κ η} {c : κ} {f : Frame} {payload : Bytes}
      (came : Channel.receive s.channel = (.frame f, c))
      (asks : Asks f payload ({ s with channel := c }.hear f)) :
      Pace (d, s) (d + 1, ({ s with channel := c }.hear f).asking payload)
  | resumed {d : Nat} {s : Session κ η} (reply : Option Bytes) :
      Pace (d + 1, s) (d, s.resumed reply)

abbrev Paces : Nat × Session κ η → Nat × Session κ η → Prop := Relation.ReflTransGen Pace

theorem Stride.paces {s t : Session κ η} (stride : Stride s t) (firm : Firm s t) (d : Nat) :
    Paces (d, s) (d, t) :=
  .single (.level stride firm.delivering)

theorem conduct_paces :
    Conduct (fun (s t : Session κ η) => ∀ d, Paces (d, s) (d, t)) where
  refl _ _ := .refl
  trans h h' d := (h d).trans (h' d)
  prepared {s} _ := Stride.prepared.paces (firm_prepare s)
  alone {s c} _ := (Stride.passed c s.host).paces ⟨rfl, rfl, rfl⟩
  failed {s c e} _ d := by
    have looked : Paces (d, s) (d, { s with channel := c }) :=
      (Stride.passed c s.host).paces ⟨rfl, rfl, rfl⟩ d
    exact looked.tail (.level (.noted _) rfl)
  entered {s c} _ came := (Stride.entered came).paces (firm_takeIn c s)
  ended {s context expected} _ :=
    (Stride.ended context expected).paces (firm_disconnect context expected s)
  idle {s c r} _ _ _ := (Stride.passed c s.host).paces ⟨rfl, rfl, rfl⟩
  served {s t c f step} _ came served :=
    (Stride.served came served).paces (served.firm.after rfl rfl rfl)
  asked {s u c f payload} _ came asks waited reply d := by
    -- the wait is one handshake deeper than what surrounds it
    have asked : Paces (d, s) (d + 1, ({ s with channel := c }.hear f).asking payload) :=
      .single (.asked came asks)
    exact (asked.trans (waited (d + 1))).tail (.resumed reply)
  strayed size _ := (Stride.noted (.strayReply size)).paces ⟨rfl, rfl, rfl⟩
  beaten {s} _ allowed :=
    (Stride.beaten allowed).paces ((firm_beat (s.setHolding false)).after rfl rfl rfl)
  observed name s := (Stride.observed name).paces (firm_observe name s)
  gated name s := (Stride.gated name).paces (firm_gate name s)
  unforwarded name e _ := (Stride.noted (.notForwarded name e)).paces ⟨rfl, rfl, rfl⟩
  called opened written := (Stride.called opened written).paces (firm_send _ _ _)
  silent name reply s d := by
    unfold noteSilence
    split
    · exact .refl
    · exact (Stride.noted _).paces ⟨rfl, rfl, rfl⟩ d

/-- Whatever the host does, the handshakes that begin in it are over when it is done. -/
theorem perform_paces {patience : Nat} {act : Act} {s t : Session κ η}
    (h : s.perform patience act = some t) (d : Nat) : Paces (d, s) (d, t) :=
  conduct_paces.perform (fun {s c} came => (Stride.entered came).paces (firm_takeIn c s)) h d

/-- From a session that is in no handshake on there is one at most, and the mark tells. -/
theorem Paces.marked {s u : Session κ η} {d : Nat} (paces : Paces (0, s) (d, u))
    (idle : s.delivering = false) :
    d = 0 ∧ u.delivering = false ∨ d = 1 ∧ u.delivering = true := by
  generalize last : (d, u) = p at paces
  induction paces generalizing d u with
  | refl =>
    cases last
    exact .inl ⟨rfl, idle⟩
  | tail _ pace ih =>
    cases pace with
    | level _ mark =>
      cases last
      rw [mark]
      exact ih rfl
    | asked came asks =>
      cases last
      -- who is in a handshake does not ask, so that no other one is under way
      rcases ih rfl with ⟨rfl, -⟩ | ⟨-, busy⟩
      · exact .inr ⟨rfl, (firm_send _ _ _).delivering⟩
      · cases busy.symm.trans asks.idle
    | resumed reply =>
      cases last
      rcases ih rfl with ⟨none, -⟩ | ⟨one, -⟩
      · cases none
      · exact .inl ⟨Nat.succ.inj one, (firm_noteSilence _ reply _).delivering⟩

/-- What a host finds: whoever is connected has the link up, a runtime that announced its return is
gone, and no handshake is under way. -/
structure Consistent (s : Session κ η) : Prop where
  sound : Channel.isConnected s.channel = true → s.status.isUp = true
  staying : s.status.isUp = true → s.status.intent ≠ .reconnecting
  idle : s.delivering = false

/-- Between the deeds of the host a session is consistent. In each of them, at every moment there is
no handshake under way and a start is not refused, or there is one and no other can begin, since
what the session does does not depend on what it would do in another wait. -/
theorem reachable_consistent [LawfulChannel κ] {s : Session κ η} (reached : Reachable s) :
    s.Consistent ∧
    (∀ patience act t, s.perform patience act = some t → Paces (0, s) (0, t)) ∧
    ∀ d u, Paces (0, s) (d, u) →
      d = 0 ∧ u.delivering = false ∧ (u.status.hostInit = true → u.Admits) ∨
      d = 1 ∧ u.delivering = true ∧ ∀ await await', u.poll await = u.poll await' := by
  obtain ⟨deeds, run⟩ := reached
  refine ⟨⟨run.sound, run.settled.staying, run.idle⟩, ?_, ?_⟩
  · intro patience act t h
    exact perform_paces h 0
  · intro d u paces
    rcases paces.marked run.idle with ⟨zero, idle⟩ | ⟨one, busy⟩
    · exact .inl ⟨zero, idle, fun host => admits_idle host idle⟩
    · exact .inr ⟨one, busy, fun await await' => poll_busy await await' busy⟩

/-- The session when the start of a runtime has reached it. -/
def summoned (s : Session Scripted.Wire Scripted.Catalog) :
    Session Scripted.Wire Scripted.Catalog :=
  { s with channel := (Channel.receive s.channel).2 }.hear ⟨Opcode.start, [2]⟩

/-- Both the host's script and the runtime know of the init callback when the runtime starts: a
handshake begins, and no other. -/
theorem reachable_consistent_summoned : ∃ (s : Session Scripted.Wire Scripted.Catalog)
    (payload : Bytes), Reachable s ∧ s.isConnected = true ∧ s.delivering = false ∧
      s.status.intent ≠ .reconnecting ∧ Paces (0, s) (1, s.summoned.asking payload) ∧
      ∀ await await', (s.summoned.asking payload).poll await =
        (s.summoned.asking payload).poll await' := by
  obtain ⟨s, ran⟩ := Option.isSome_iff_exists.mp
    (by decide : (launched (candidate []) [.frame ⟨Opcode.start, [2]⟩]).isSome = true)
  have shown : (launched (candidate []) [.frame ⟨Opcode.start, [2]⟩]).all (fun s =>
      s.channel.connected && s.summoned.status.hostInit &&
        decide ((Channel.receive s.channel).1 = .frame ⟨Opcode.start, [2]⟩) &&
        (s.summoned.delivered.callPayload 0 s.settings.initCallback []).toOption.join.isSome) =
          true := by
    decide
  rw [ran, Option.all_some] at shown
  simp only [Bool.and_eq_true, decide_eq_true_eq] at shown
  obtain ⟨⟨⟨connected, hostInit⟩, came⟩, written⟩ := shown
  have reached : Reachable s := reachable_launched rfl ran
  obtain ⟨consistent, -, moments⟩ := reachable_consistent reached
  obtain ⟨payload, ready⟩ := Option.isSome_iff_exists.mp written
  have up := consistent.sound connected
  have asks : Asks ⟨Opcode.start, [2]⟩ payload s.summoned :=
    { command := by rfl
      hostInit
      idle := consistent.idle
      ready := by
        cases call : s.summoned.delivered.callPayload 0 s.settings.initCallback [] with
        | error e =>
          rw [call] at ready
          cases ready
        | ok called =>
          rw [call] at ready
          exact call.trans (congrArg _ ready) }
  have begun : Paces (0, s) (1, s.summoned.asking payload) :=
    .single (.asked (Prod.ext came rfl) asks)
  refine ⟨s, payload, reached, ?_, consistent.idle, consistent.staying up, begun, ?_⟩
  · exact Bool.and_eq_true_iff.mpr ⟨up, connected⟩
  · rcases moments 1 _ begun with ⟨zero, -⟩ | ⟨-, -, alone⟩
    · cases zero
    · exact alone

end HostLink.Session
