import HostLink.Proofs.Session.Quiet

/-!
# HostLink.Proofs.Session.Passage

The two moments at which the link changes: a runtime is let in (`Entered`), and a connection ends
(`Ended`). Each enters one event about the channel and one report, among quiet events only.
-/

namespace HostLink

/-- The transition that the end of a connection is reported as. -/
def Cause.lifecycle : Cause → Lifecycle
  | .expected => .disconnected
  | .declared => .disconnected
  | .unexpected => .error

namespace Session

variable {κ η : Type}

/-- The events that report a transition to whoever listens. -/
def told (e : Lifecycle) (s : Session κ η) : Journal η :=
  (s.holding.listener.hear (.event e)).map .report

/-- The session when it has taken note that a runtime is there. -/
def greet (s : Session κ η) : Session κ η :=
  { s.signal .connected with status := s.status.connected }.note
    (.clientConnected s.status.isReturning)

theorem greet_past (s : Session κ η) : ∃ es : Journal η, es.Quiet ∧
    s.greet.past = es ++ (s.told .connected ++ s.past) := by
  obtain ⟨es, quiet, past⟩ := signal_past .connected s
  exact ⟨.notice (.clientConnected s.status.isReturning) :: es, by simp [quiet, Event.isQuiet],
    congrArg _ past⟩

theorem parted_past (cause : Cause) (context : Option String) (s : Session κ η) :
    ∃ fs gs : Journal η, fs.Quiet ∧ gs.Quiet ∧
      ((s.farewell cause context).forget cause).past =
        fs ++ (s.told cause.lifecycle ++ (gs ++ s.past)) := by
  cases cause with
  | expected =>
    obtain ⟨fs, quiet, past⟩ := signal_past .disconnected (s.note .clientDisconnected)
    exact ⟨fs, [.notice .clientDisconnected], quiet, by simp [Event.isQuiet], past⟩
  | declared =>
    obtain ⟨fs, quiet, past⟩ := signal_past .disconnected (s.note .clientDisconnected)
    exact ⟨fs, [.notice .clientDisconnected], quiet, by simp [Event.isQuiet], past⟩
  | unexpected =>
    obtain ⟨fs, quiet, past⟩ := signal_past .error (s.note (.clientLost (context.getD "")))
    exact ⟨fs, [.notice (.clientLost (context.getD ""))], quiet, by simp [Event.isQuiet], past⟩

theorem parted_keeps (cause : Cause) (context : Option String) (s : Session κ η) :
    let t := (s.farewell cause context).forget cause
    t.status = s.status ∧ t.natives = (if cause.clearsTables then .empty else s.natives) ∧
      t.callbacks = (if cause.clearsTables then .empty else s.callbacks) ∧
      t.holding.listener = s.holding.listener := by
  cases cause with
  | expected => exact ⟨rfl, rfl, rfl, signal_listener _ _⟩
  | declared => exact ⟨rfl, rfl, rfl, signal_listener _ _⟩
  | unexpected => exact ⟨rfl, rfl, rfl, signal_listener _ _⟩

/-- The session `t` is `s` after a runtime was let in. -/
structure Entered (s t : Session κ η) : Prop where
  status : t.status = s.status.connected
  natives : t.natives = s.natives
  callbacks : t.callbacks = s.callbacks
  listener : t.holding.listener = s.holding.listener
  past : ∃ es : Journal η, es.Quiet ∧
    t.past = es ++ (s.told .connected ++ .letIn s.memory :: s.past)

theorem Entered.isUp {s t : Session κ η} (h : Entered s t) : t.status.isUp = true := by
  rw [h.status]
  unfold Status.connected
  split <;> rfl

variable [Channel κ]

/-- The session `t` is `s` after a connection ended. -/
structure Ended (cause : Cause) (s t : Session κ η) : Prop where
  status : t.status = s.status.disconnected cause
  natives : t.natives = if cause.clearsTables then .empty else s.natives
  callbacks : t.callbacks = if cause.clearsTables then .empty else s.callbacks
  listener : t.holding.listener = s.holding.listener
  past : ∃ es fs gs : Journal η, es.Quiet ∧ fs.Quiet ∧ gs.Quiet ∧
    t.past = es ++ .hungUp cause s.memory :: (fs ++ (s.told cause.lifecycle ++ (gs ++ s.past)))
  closed : LawfulChannel κ → Channel.isConnected t.channel = false

/-- The session when the channel has let a runtime in. -/
def takeIn (c : κ) (s : Session κ η) : Session κ η :=
  ({ s with channel := c }.record (.letIn s.memory)).welcome

theorem welcome_eq (s : Session κ η) : s.welcome = s.greet.announce := rfl

theorem entered_takeIn (c : κ) (s : Session κ η) : Entered s (s.takeIn c) := by
  let opened : Session κ η := { s with channel := c }.record (.letIn s.memory)
  have eq : s.takeIn c = opened.greet.announce := welcome_eq opened
  have rest : Still opened.greet (s.takeIn c) := eq ▸ still_announce opened.greet
  obtain ⟨es, quiet, past⟩ := greet_past opened
  obtain ⟨fs, restPast, restQuiet⟩ := rest.quiet
  have listener := rest.listener.trans (signal_listener .connected opened)
  refine ⟨rest.status, rest.natives, rest.callbacks, listener, fs ++ es,
    by simp [quiet, restQuiet], ?_⟩
  rw [restPast, past, List.append_assoc]
  rfl

theorem Ended.isUp {cause : Cause} {s t : Session κ η} (h : Ended cause s t) :
    t.status.isUp = false := by
  rw [h.status]
  cases cause <;> rfl

theorem ended_disconnect (context : Option String) (expected : Bool) {s : Session κ η}
    (up : s.status.isUp = true) :
    Ended (s.status.cause expected) s (s.disconnect context expected) := by
  let cause := s.status.cause expected
  let parted := (s.farewell cause context).forget cause
  let closed : Session κ η :=
    { parted with channel := Channel.disconnect parted.channel }.record (.hungUp cause s.memory)
  let renewed := parted.renewChannel cause s.memory
  have still : Still closed renewed := still_setUp _ closed
  have eq : s.disconnect context expected =
      { renewed with status := renewed.status.disconnected cause } := by
    unfold disconnect
    rw [if_pos up]
  obtain ⟨status, natives, callbacks, listener⟩ := parted_keeps cause context s
  obtain ⟨fs, gs, quietF, quietG, past⟩ := parted_past cause context s
  obtain ⟨es, renewedPast, quietE⟩ := still.quiet
  rw [eq]
  refine ⟨?_, still.natives.trans natives, still.callbacks.trans callbacks,
    still.listener.trans listener, ⟨es, fs, gs, quietE, quietF, quietG, ?_⟩, ?_⟩
  · exact congrArg (Status.disconnected cause) (still.status.trans status)
  · rw [← past]
    exact renewedPast
  · intro lawful
    refine eq_false_of_ne_true fun held => ?_
    have open_ : Channel.isConnected (Channel.disconnect parted.channel) = true :=
      still.peer lawful held
    rw [lawful.disconnect_ends] at open_
    cases open_

end Session

end HostLink
