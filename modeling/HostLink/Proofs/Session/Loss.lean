import HostLink.Proofs.Session.Conversation
import HostLink.Proofs.Session.Mirror

/-!
# HostLink.Proofs.Session.Loss

Each loss of the link is processed once. Many a thing makes a session give its connection up: the
host asks for it, the runtime announces its return, the channel reports its death or is found
without a peer, and inside a handshake the wait finds it as well as the loop around it. Whoever asks
first is served, and brings the link down; nobody who asks later finds anything to do.

* `Loses` — all that is done about a loss: it is reported, the tables are kept or emptied, the
  channel is closed and at once made ready again, and at last the link is marked down.
* `losses_processed_once` — from one moment to the next, this is done exactly where the link goes
  down, and what is reported and closed otherwise is nothing.
-/

namespace HostLink

/-- Whether a connection ended. -/
def Lifecycle.isEnd : Lifecycle → Bool
  | .starting => false
  | .connected => false
  | .disconnected => true
  | .error => true

/-- Whether the channel is closed or made ready. -/
def Event.isRenewal {η : Type} : Event η → Bool
  | .setUp => true
  | .hungUp _ _ => true
  | _ => false

namespace Journal

variable {η : Type}

/-- How often it was reported that a connection ended. -/
def partings (j : Journal η) : Nat := j.lifecycles.countP Lifecycle.isEnd

/-- The channel is neither closed nor made ready. -/
def Unrenewed (j : Journal η) : Prop := ∀ e ∈ j, e.isRenewal = false

@[simp] theorem unrenewed_nil : Unrenewed ([] : Journal η) := by simp [Unrenewed]

@[simp] theorem unrenewed_append {j j' : Journal η} :
    Unrenewed (j ++ j') ↔ Unrenewed j ∧ Unrenewed j' := by
  simp [Unrenewed, or_imp, forall_and]

theorem unrenewed_reports (rs : List Report) : Unrenewed (rs.map .report : Journal η) := by
  intro e mem
  obtain ⟨r, -, rfl⟩ := List.mem_map.mp mem
  rfl

theorem unrenewed_notice (n : Notice) : Unrenewed ([.notice n] : Journal η) := by
  simp [Unrenewed, Event.isRenewal]

end Journal

/-- A transition is told to whoever listens. -/
theorem Holding.signal_events {h : Holding} (heard : h.listener ≠ .absent) (e : Lifecycle) :
    (h.signal e).2.filterMap Report.event? = [e] := by
  rw [signal_eq, List.filterMap_append, set_events, List.append_nil]
  cases listens : h.listener with
  | absent => exact absurd listens heard
  | events => rfl
  | full => rfl

theorem Holding.signal_listener (e : Lifecycle) (h : Holding) :
    (h.signal e).1.listener = h.listener :=
  Session.set_listener (onAfter e) { h with last := some e }

namespace Face

variable {η : Type}

/-- How often it was reported that a connection ended. -/
def partings (f : Face η) : Nat := (f.reports.filterMap Report.event?).countP Lifecycle.isEnd

/-- How often the link goes down from one face to the next: once or not at all. -/
def fall (f g : Face η) : Nat := if f.up && !g.up then 1 else 0

/-- An end is entered and reported where the link goes down, and nowhere else. -/
structure Counts (f g : Face η) : Prop where
  listener : g.holding.listener = f.holding.listener
  ends : g.ends.length = f.ends.length + fall f g
  partings : f.holding.listener ≠ .absent → g.partings = f.partings + fall f g

theorem partings_signal {f : Face η} (heard : f.holding.listener ≠ .absent) (e : Lifecycle) :
    (f.signal e).partings = f.partings + if e.isEnd then 1 else 0 := by
  simp only [partings, signal, List.filterMap_append, List.countP_append,
    Holding.signal_events heard, List.countP_singleton]

theorem fall_level {f g : Face η} (level : g.up = f.up) : fall f g = 0 := by
  simp [fall, level]

theorem counts_refl (f : Face η) : Counts f f where
  listener := rfl
  ends := by simp [fall_level]
  partings _ := by simp [fall_level]

theorem counts_lowered (f : Face η) : Counts f f.lowered where
  listener := Session.set_listener false f.holding
  ends := by simp [fall, lowered]
  partings _ := by simp [fall, partings, lowered, Holding.set_events]

theorem counts_entered (f : Face η) : Counts f f.entered where
  listener := Holding.signal_listener .connected f.holding
  ends := by simp [fall, entered, signal]
  partings heard := by
    have level : fall f f.entered = 0 := by simp [fall, entered]
    rw [level]
    exact partings_signal heard .connected

theorem counts_lost {f : Face η} (up : f.up = true) (cause : Cause) (kept : Memory η) :
    Counts f (f.lost cause kept) where
  listener := Holding.signal_listener cause.lifecycle f.holding
  ends := by simp [fall, lost, up]
  partings heard := by
    have falls : fall f (f.lost cause kept) = 1 := by simp [fall, lost, up]
    rw [falls]
    refine (partings_signal heard cause.lifecycle).trans ?_
    cases cause <;> rfl

end Face

namespace Session

variable {κ η : Type}

/-! ## What is done about a loss -/

theorem recordAll_journal (es : Journal η) (s : Session κ η) :
    (s.recordAll es).journal = s.journal ++ es := by
  simp [journal, recordAll]

theorem farewell_journal (cause : Cause) (context : Option String) (s : Session κ η) :
    ∃ es : Journal η, es.Unrenewed ∧ (s.farewell cause context).journal = s.journal ++ es := by
  have gone (e : Lifecycle) (n : Notice) : ∃ es : Journal η, es.Unrenewed ∧
      ((s.note n).signal e).journal = s.journal ++ es := by
    have noted : (s.note n).journal = s.journal ++ [.notice n] := List.reverse_cons
    have told : ((s.note n).signal e).journal =
        (s.note n).journal ++ (s.holding.signal e).2.map .report :=
      recordAll_journal _ { s.note n with holding := (s.holding.signal e).1 }
    refine ⟨[.notice n] ++ (s.holding.signal e).2.map .report, ?_, ?_⟩
    · exact Journal.unrenewed_append.mpr
        ⟨Journal.unrenewed_notice n, Journal.unrenewed_reports _⟩
    · rw [told, noted, List.append_assoc]
  cases cause with
  | expected => exact gone .disconnected .clientDisconnected
  | declared => exact gone .disconnected .clientDisconnected
  | unexpected => exact gone .error (.clientLost (context.getD ""))

theorem parted_journal (cause : Cause) (context : Option String) (s : Session κ η) :
    ∃ es : Journal η, es.Unrenewed ∧
      ((s.farewell cause context).forget cause).journal = s.journal ++ es := by
  have same : ((s.farewell cause context).forget cause).journal =
      (s.farewell cause context).journal := by
    unfold forget
    split <;> rfl
  rw [same]
  exact farewell_journal cause context s

/-- What is reported of an end, and what becomes of the tables. -/
inductive Parts (expected : Bool) (s t : Session κ η) : Lifecycle → Prop where
  | asked (h : expected = true) (natives : t.natives = s.natives)
      (callbacks : t.callbacks = s.callbacks) : Parts expected s t .disconnected
  | declared (h : expected = false) (leaving : s.status.intent = .disconnecting)
      (natives : t.natives = .empty) (callbacks : t.callbacks = .empty) :
      Parts expected s t .disconnected
  | unexpected (h : expected = false) (staying : s.status.intent ≠ .disconnecting)
      (natives : t.natives = .empty) (callbacks : t.callbacks = .empty) :
      Parts expected s t .error

/-! ## Moments -/

/-- How often the link goes down in a row of moments. -/
def falls : List (Session κ η) → Nat
  | s :: t :: later => Face.fall s.face t.face + falls (t :: later)
  | _ => 0

theorem falls_concat (moments : List (Session κ η)) (s t : Session κ η) :
    falls (moments ++ [s] ++ [t]) = falls (moments ++ [s]) + Face.fall s.face t.face := by
  induction moments with
  | nil => simp [falls]
  | cons u moments ih =>
    cases moments with
    | nil => simp [falls]
    | cons v moments =>
      simp only [List.cons_append, falls] at ih ⊢
      omega

/-- Two neighbours in a row that goes on were neighbours before, or are the last two. -/
theorem neighbours_concat {moments : List (Session κ η)} {s t u v : Session κ η}
    (near : [u, v] <:+: moments ++ [s] ++ [t]) :
    [u, v] <:+: moments ++ [s] ∨ u = s ∧ v = t := by
  rcases List.infix_concat_iff.mp near with ⟨before, eq⟩ | earlier
  · have eq : before ++ [u] ++ [v] = moments ++ [s] ++ [t] := by simpa using eq
    obtain ⟨eq, last⟩ := List.append_inj' eq rfl
    obtain ⟨-, first⟩ := List.append_inj' eq rfl
    cases last
    cases first
    exact .inr ⟨rfl, rfl⟩
  · exact .inl earlier

theorem partings_face (s : Session κ η) : s.face.partings = s.journal.partings := by
  unfold Face.partings Journal.partings
  rw [← Journal.lifecycles_reports]
  rfl

variable [Channel κ]

theorem setUp_journal (failed : Fault → Notice) (s : Session κ η) :
    ∃ es : Journal η, es.Unrenewed ∧ (s.setUp failed).2.journal = s.journal ++ .setUp :: es := by
  unfold setUp
  split
  · exact ⟨[], Journal.unrenewed_nil, by simp [journal, record]⟩
  · rename_i e c _
    exact ⟨_, Journal.unrenewed_notice (failed e), by simp [journal, record, note]⟩

/-- The connection of `s` is given up, as expected or not, with `t` as the outcome. -/
structure Loses (expected : Bool) (s t : Session κ η) : Prop where
  up : s.status.isUp = true
  down : t.status.isUp = false
  /-- The end is the last transition, and the only one that is reported. -/
  parts : ∃ e, Parts expected s t e ∧ t.holding.last = some e ∧
    (s.holding.listener ≠ .absent → t.journal.lifecycles = s.journal.lifecycles ++ [e])
  channel : t.channel = (Channel.setup (Channel.disconnect s.channel)).2
  /-- The channel is closed once, and made ready once, right after it. -/
  renews : ∃ before after : Journal η, before.Unrenewed ∧ after.Unrenewed ∧
    t.journal = s.journal ++
      (before ++ .hungUp (s.status.cause expected) s.memory :: .setUp :: after)
  /-- Until all this is done, the status is as it was. -/
  marked : ∃ m : Session κ η, m.status = s.status ∧
    t = { m with status := s.status.disconnected (s.status.cause expected) }

theorem disconnect_parts (context : Option String) (expected : Bool) {s : Session κ η}
    (up : s.status.isUp = true) :
    Parts expected s (s.disconnect context expected) (s.status.cause expected).lifecycle := by
  have ended := ended_disconnect context expected up
  have natives := ended.natives
  have callbacks := ended.callbacks
  cases expected with
  | true => exact .asked rfl natives callbacks
  | false =>
    by_cases leaving : s.status.intent = .disconnecting
    · have cause : s.status.cause false = .declared := by simp [Status.cause, leaving]
      rw [cause] at natives callbacks ⊢
      exact .declared rfl leaving natives callbacks
    · have cause : s.status.cause false = .unexpected := by simp [Status.cause, leaving]
      rw [cause] at natives callbacks ⊢
      exact .unexpected rfl leaving natives callbacks

theorem disconnect_loses (context : Option String) (expected : Bool) {s : Session κ η}
    (up : s.status.isUp = true) : Loses expected s (s.disconnect context expected) := by
  let cause := s.status.cause expected
  let parted := (s.farewell cause context).forget cause
  let closed : Session κ η :=
    { parted with channel := Channel.disconnect parted.channel }.record (.hungUp cause s.memory)
  let renewed := (closed.setUp .renewalFailed).2
  have eq : s.disconnect context expected =
      { renewed with status := renewed.status.disconnected cause } := if_pos up
  have status : renewed.status = s.status :=
    (still_setUp _ closed).status.trans (parted_keeps cause context s).1
  have face := face_disconnect context expected up
  refine ⟨up, (ended_disconnect context expected up).isUp, ?_,
    (disconnect_view context expected up).2, ?_, ?_⟩
  · refine ⟨_, disconnect_parts context expected up, ?_, ?_⟩
    · exact (congrArg (fun f => f.holding.last) face).trans (Holding.signal_last _ _)
    · intro heard
      have reports : (s.disconnect context expected).journal.reports =
          s.journal.reports ++ (s.holding.signal cause.lifecycle).2 := congrArg Face.reports face
      rw [← Journal.lifecycles_reports, reports, List.filterMap_append, Journal.lifecycles_reports,
        Holding.signal_events heard]
  · obtain ⟨before, unrenewedB, reported⟩ := parted_journal cause context s
    obtain ⟨after, unrenewedA, journal⟩ := setUp_journal .renewalFailed closed
    refine ⟨before, after, unrenewedB, unrenewedA, ?_⟩
    have hungUp : closed.journal = parted.journal ++ [.hungUp cause s.memory] := List.reverse_cons
    rw [eq]
    refine journal.trans ?_
    rw [hungUp, reported]
    simp [cause]
  · exact ⟨renewed, status, by rw [eq, status]⟩

/-- The connection of `s` is lost, if there is one, with `t` as the outcome. -/
def GivesUp (expected : Bool) (s t : Session κ η) : Prop :=
  s.status.isUp = true ∧ Loses expected s t ∨ s.status.isUp = false ∧ t = s

theorem disconnect_givesUp (context : Option String) (expected : Bool) (s : Session κ η) :
    GivesUp expected s (s.disconnect context expected) := by
  cases up : s.status.isUp with
  | true => exact .inl ⟨up, disconnect_loses context expected up⟩
  | false => exact .inr ⟨up, if_neg (by simp [up])⟩

/-! ## From one moment to the next -/

theorem Turns.counts {s t : Session κ η} (turns : Turns s t) : s.face.Counts t.face := by
  cases turns with
  | same face =>
    rw [face]
    exact Face.counts_refl _
  | lowered up face =>
    rw [face]
    exact Face.counts_lowered _
  | entered face =>
    rw [face]
    exact Face.counts_entered _
  | lost request up eq =>
    rw [eq, face_disconnect _ _ up, request.face]
    exact Face.counts_lost (request.isUp.symm.trans up) _ _

/-- A turn that brings the link down is the loss of a connection. -/
theorem Turns.loses {s t : Session κ η} (turns : Turns s t) (up : s.status.isUp = true)
    (down : t.status.isUp = false) :
    ∃ expected context w, Requests expected s w ∧ t = w.disconnect context expected ∧
      Loses expected w t := by
  have fell : t.face.up = false := down
  cases turns with
  | same face =>
    rw [face] at fell
    exact absurd (fell.symm.trans up) (by simp)
  | lowered _ face =>
    rw [face] at fell
    exact absurd (fell.symm.trans up) (by simp)
  | entered face =>
    rw [face] at fell
    cases fell
  | @lost expected context w request up eq =>
    refine ⟨expected, context, w, request, eq, ?_⟩
    rw [eq]
    exact disconnect_loses context expected up

/-- While the link is down, nothing is seen but that a runtime comes in. -/
theorem Turns.idle {s t : Session κ η} (turns : Turns s t) (down : s.status.isUp = false) :
    t.face = s.face ∨ t.face = s.face.entered := by
  cases turns with
  | same face => exact .inl face
  | lowered up face => simp [up] at down
  | entered face => exact .inr face
  | lost request up eq =>
    rw [request.isUp] at up
    simp [up] at down

variable [Host η]

/-- A look that finds the channel dead loses the connection, if there is one. -/
theorem Took.dead_cases {await : Wait κ η} {s t : Session κ η} (took : Took await s .dead t) :
    ∃ c, Channel.receive s.channel = (.dead, c) ∧ GivesUp false { s with channel := c } t := by
  generalize step : Step.dead = found at took
  cases took with
  | nothing h => cases step
  | asked h asks waited => cases step
  | served h served =>
    subst step
    cases served
  | @dead c h => exact ⟨c, h, disconnect_givesUp _ _ _⟩

/-- A poll that finds the channel without a peer loses the connection before it looks. -/
theorem poll_lost (await : Wait κ η) {s : Session κ η} (up : s.status.isUp = true)
    (lost : Channel.isConnected s.channel = false) :
    ∃ t, s.poll await = some (.dead, t) ∧ Loses false s t :=
  ⟨_, if_pos (by simp [up, lost]), disconnect_loses _ _ up⟩

theorem Chronicle.counts {moments : List (Session κ η)} {s : Session κ η}
    (life : Chronicle moments s) :
    s.journal.ends.length = falls (moments ++ [s]) ∧
      (s.holding.listener ≠ .absent → s.journal.partings = falls (moments ++ [s])) := by
  induction life with
  | made settings listener channel host =>
    have face : (make settings listener channel host : Session κ η).face = _ := face_make _ _ _ _
    refine ⟨?_, ?_⟩
    · exact congrArg (fun f => f.ends.length) face
    · intro heard
      rw [← partings_face, face]
      have same : (make settings listener channel host : Session κ η).holding.listener = listener :=
        (congrArg (fun f => f.holding.listener) face).trans
          (Holding.signal_listener .starting (.initial listener))
      rw [same] at heard
      exact Face.partings_signal (f := ⟨false, .initial listener, [], []⟩) heard .starting
  | @next moments s t before stride ih =>
    obtain ⟨listener, ends, partings⟩ := stride.turns.counts
    rw [falls_concat]
    refine ⟨?_, ?_⟩
    · rw [← ih.1]
      exact ends
    · intro heard
      have same : t.holding.listener = s.holding.listener := listener
      rw [same] at heard
      rw [← ih.2 heard, ← partings_face, ← partings_face]
      exact partings heard

/-- From one moment to the next there is a stride. -/
theorem Chronicle.stride {moments : List (Session κ η)} {s : Session κ η}
    (life : Chronicle moments s) {u v : Session κ η} (near : [u, v] <:+: moments ++ [s]) :
    Stride u v := by
  induction life with
  | made settings listener channel host =>
    have short := near.length_le
    simp at short
  | next before stride ih =>
    rcases neighbours_concat near with earlier | ⟨rfl, rfl⟩
    · exact ih earlier
    · exact stride

/-- In the life of a session there are as many hang-ups as there are moments at which the link goes
down, and as many reports of an end. There the session was asked to give its connection up, and this
was done about it, once. While the link is down nothing happens to it but that a runtime comes in,
whoever asks for an end and whatever the channel reports. -/
theorem losses_processed_once {moments : List (Session κ η)} {s : Session κ η}
    (life : Chronicle moments s) :
    s.journal.ends.length = falls (moments ++ [s]) ∧
    (s.holding.listener ≠ .absent → s.journal.partings = falls (moments ++ [s])) ∧
    (∀ u v, [u, v] <:+: moments ++ [s] →
      (u.status.isUp = true → v.status.isUp = false → ∃ expected context w,
        Requests expected u w ∧ v = w.disconnect context expected ∧ Loses expected w v) ∧
      (u.status.isUp = false → v.face = u.face ∨ v.face = u.face.entered)) ∧
    ∀ u : Session κ η,
      (∀ context expected, GivesUp expected u (u.disconnect context expected)) ∧
      (∀ await, u.status.isUp = true → Channel.isConnected u.channel = false →
        ∃ v, u.poll await = some (.dead, v) ∧ Loses false u v) ∧
      ∀ await v, Took await u .dead v →
        ∃ c, Channel.receive u.channel = (.dead, c) ∧ GivesUp false { u with channel := c } v := by
  obtain ⟨ends, partings⟩ := life.counts
  refine ⟨ends, partings, ?_, ?_⟩
  · intro u v near
    have turns := (life.stride near).turns
    exact ⟨turns.loses, turns.idle⟩
  · intro u
    refine ⟨fun context expected => disconnect_givesUp context expected u, ?_, ?_⟩
    · intro await up lost
      exact poll_lost await up lost
    · intro await v took
      exact took.dead_cases

/-- Three runtimes at the door. The first says that it will leave and leaves, the second is lost
without a word, and the third says that it will come back. -/
def guests : Scripted.Wire :=
  { peers := [.visit [.frame ⟨Opcode.disconnect, []⟩, .dead], .visit [.vanish],
      .visit [.frame ⟨Opcode.reconnect, []⟩]] }

/-- The session when its host has ticked some times. -/
def ticks (patience : Nat) : Nat → Session κ η → Option (Session κ η)
  | 0, s => some s
  | n + 1, s => (s.tick patience).bind (ticks patience n)

theorem Occurs.ticks {patience n : Nat} {s t : Session κ η} (occurs : s.Occurs)
    (h : s.ticks patience n = some t) : t.Occurs := by
  induction n generalizing s with
  | zero =>
    cases h
    exact occurs
  | succ n ih =>
    obtain ⟨u, ticked, rest⟩ := Option.bind_eq_some_iff.mp h
    have performed : s.perform patience .tick = some u := ticked
    have course : Course s u := perform_course performed
    exact ih (occurs.course course) rest

/-- When all three have gone, the link has gone down three times: one end was an error, and two were
not. -/
theorem losses_processed_guests : ∃ (moments : List (Session Scripted.Wire Scripted.Catalog))
    (s : Session Scripted.Wire Scripted.Catalog), Chronicle moments s ∧
    s.journal.lifecycles = [.starting, .connected, .disconnected, .connected, .error, .connected,
      .disconnected] ∧
    s.journal.ends.length = 3 ∧ falls (moments ++ [s]) = 3 := by
  obtain ⟨s, ran⟩ := Option.isSome_iff_exists.mp
    (by decide : ((rehearsal guests).ticks 9 4).isSome = true)
  have shown : ((rehearsal guests).ticks 9 4).all (fun s => decide (
      s.journal.lifecycles = [.starting, .connected, .disconnected, .connected, .error, .connected,
        .disconnected] ∧ s.journal.ends.length = 3)) = true := by decide
  rw [ran, Option.all_some, decide_eq_true_eq] at shown
  obtain ⟨lifecycles, ends⟩ := shown
  have occurs : s.Occurs := ((run_rehearsal rfl).occurs).ticks ran
  obtain ⟨moments, life⟩ := occurs.chronicle
  obtain ⟨counted, -, -, -⟩ := losses_processed_once life
  exact ⟨moments, s, life, lifecycles, ends, counted ▸ ends⟩

end Session

end HostLink
