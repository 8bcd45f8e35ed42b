import HostLink.Proofs.Session.Course
import HostLink.Proofs.Session.Memory

/-!
# HostLink.Proofs.Session.Face

What a session shows of its connection: whether the link is up, the holding state, what was reported
of either, and how the connections that are over ended (`Face`). A face changes in three ways only:
the holding state is lowered under a link that is up, a runtime comes in, a connection ends.

* `face_setHolding`, `face_takeIn`, `face_disconnect` — the operations that change it.
* `Stride.turns` — what a stride does to the face. Where the link goes down, the session was asked
  to end its connection (`Requests`), by the host, by itself or by the runtime.
-/

namespace HostLink

/-- How connections ended, with what was remembered each time. -/
def Journal.ends {η : Type} (j : Journal η) : List (Cause × Memory η) := j.filterMap Event.ended?

/-- What a session shows of its connection. -/
structure Face (η : Type) where
  up : Bool
  holding : Holding
  reports : List Report
  ends : List (Cause × Memory η)

namespace Face

variable {η : Type}

def signal (e : Lifecycle) (f : Face η) : Face η :=
  { f with
    holding := (f.holding.signal e).1
    reports := f.reports ++ (f.holding.signal e).2 }

/-- The holding state is lowered, unless it is down. -/
def lowered (f : Face η) : Face η :=
  { f with
    holding := (f.holding.set false).1
    reports := f.reports ++ (f.holding.set false).2 }

/-- A runtime has come in. -/
def entered (f : Face η) : Face η := { f.signal .connected with up := true }

/-- The connection has ended. -/
def lost (cause : Cause) (kept : Memory η) (f : Face η) : Face η :=
  { f.signal cause.lifecycle with
    up := false
    ends := f.ends ++ [(cause, kept)] }

end Face

namespace Session

variable {κ η : Type}

def face (s : Session κ η) : Face η :=
  ⟨s.status.isUp, s.holding, s.journal.reports, s.journal.ends⟩

/-! ## What is not seen on the face -/

theorem face_record {e : Event η} (report : e.report? = none) (ended : e.ended? = none)
    (s : Session κ η) : (s.record e).face = s.face := by
  simp [face, record, journal, Journal.reports, Journal.ends, report, ended]

theorem face_recordAll {es : Journal η} (ends : es.ends = []) (s : Session κ η) :
    (s.recordAll es).face = { s.face with reports := s.face.reports ++ es.reports } := by
  have journal : (s.recordAll es).journal = s.journal ++ es := by simp [Session.journal, recordAll]
  unfold Journal.ends at ends
  unfold face
  rw [journal]
  simp [Journal.reports, Journal.ends, ends, recordAll]

@[simp] theorem face_note (n : Notice) (s : Session κ η) : (s.note n).face = s.face :=
  face_record rfl rfl s

@[simp] theorem face_noteAll (ns : List Notice) (s : Session κ η) : (s.noteAll ns).face = s.face := by
  have told : Journal.reports (ns.map .notice : Journal η) = [] := by
    simp [Journal.reports, Function.comp_def, Event.report?]
  have ends : Journal.ends (ns.map .notice : Journal η) = [] := by
    simp [Journal.ends, Function.comp_def, Event.ended?]
  rw [noteAll, face_recordAll ends, told, List.append_nil]

@[simp] theorem face_noteSilence (name : String) (reply : Option Bytes) (s : Session κ η) :
    (s.noteSilence name reply).face = s.face := by
  unfold noteSilence
  split
  · rfl
  · exact face_note _ s

@[simp] theorem face_observe (name : String) (s : Session κ η) : (s.observe name).face = s.face := by
  unfold observe
  split
  · rfl
  · split <;> rfl

@[simp] theorem face_enterCallback (record : Bytes) (s : Session κ η) :
    (s.enterCallback record).face = s.face := by
  unfold enterCallback
  split
  · exact face_note _ s
  · dsimp only
    rw [face_note, face_note]
    rfl

theorem face_begun (s : Session κ η) : s.begun.face = s.face := face_note _ s

theorem face_delivered (s : Session κ η) : s.delivered.face = s.face :=
  (face_note .startsFaking s.begun).trans (face_begun s)

theorem face_expecting (s : Session κ η) : s.expecting.face = s.face := face_note _ s

/-! ## What is -/

theorem face_reports (rs : List Report) (s : Session κ η) :
    (s.recordAll (rs.map .report)).face = { s.face with reports := s.face.reports ++ rs } := by
  have told : Journal.reports (rs.map .report : Journal η) = rs := by
    simp [Journal.reports, Function.comp_def, Event.report?]
  have ends : Journal.ends (rs.map .report : Journal η) = [] := by
    simp [Journal.ends, Function.comp_def, Event.ended?]
  rw [face_recordAll ends, told]

theorem face_signal (e : Lifecycle) (s : Session κ η) : (s.signal e).face = s.face.signal e :=
  face_reports (s.holding.signal e).2 { s with holding := (s.holding.signal e).1 }

theorem face_setHolding (s : Session κ η) : (s.setHolding false).face = s.face.lowered :=
  face_reports (s.holding.set false).2 { s with holding := (s.holding.set false).1 }

theorem face_parted (cause : Cause) (context : Option String) (s : Session κ η) :
    ((s.farewell cause context).forget cause).face = s.face.signal cause.lifecycle := by
  have gone (e : Lifecycle) (n : Notice) : ((s.note n).signal e).face = s.face.signal e := by
    rw [face_signal, face_note]
  cases cause with
  | expected => exact gone .disconnected .clientDisconnected
  | declared => exact gone .disconnected .clientDisconnected
  | unexpected => exact gone .error (.clientLost (context.getD ""))

theorem face_cleared (name : String) (s : Session κ η) :
    (s.cleared name).face = s.face.lowered := by
  unfold Session.cleared
  split <;> exact face_setHolding s

section Serving

variable [Host η]

@[simp] theorem face_consulted (name : String) (s : Session κ η) :
    (s.consulted name).face = s.face := by
  unfold consulted
  dsimp only
  cases (s.natives.resolve name s.host).answer with
  | none => exact face_noteAll _ _
  | some answer =>
    rw [Option.elim_some, face_noteAll]
    exact face_record rfl rfl _

@[simp] theorem face_restart (s : Session κ η) : s.restart.face = s.face := by
  unfold restart
  split
  · dsimp only
    rw [face_record rfl rfl]
    exact face_note _ s
  · rfl

end Serving

variable [Channel κ]

@[simp] theorem face_setUp (failed : Fault → Notice) (s : Session κ η) :
    (s.setUp failed).2.face = s.face := by
  unfold setUp
  split
  · exact face_record rfl rfl _
  · dsimp only
    rw [face_note]
    exact face_record rfl rfl _

@[simp] theorem face_prepare (s : Session κ η) : s.prepare.2.face = s.face := by
  unfold prepare
  split
  · rfl
  · exact face_setUp _ s

@[simp] theorem face_send (opcode : UInt8) (payload : Bytes) (s : Session κ η) :
    (s.send opcode payload).face = s.face := by
  unfold send
  split
  · exact face_record rfl rfl _
  · rw [face_note]
    exact face_record rfl rfl _

@[simp] theorem face_announce (s : Session κ η) : s.announce.face = s.face := by
  unfold announce
  dsimp only
  split
  · rw [face_note, face_noteAll]
  · rw [face_note, face_note, face_send, face_noteAll]

theorem face_takeIn (c : κ) (s : Session κ η) : (s.takeIn c).face = s.face.entered := by
  let opened : Session κ η := { s with channel := c }.record (.letIn s.memory)
  have same : opened.face = s.face := face_record rfl rfl _
  have greeted : opened.greet.face = { (opened.signal .connected).face with up := true } := by
    have up : s.status.connected.isUp = true := by
      unfold Status.connected
      split <;> rfl
    unfold greet
    rw [face_note]
    exact congrArg (fun up => { (opened.signal .connected).face with up := up }) up
  have eq : s.takeIn c = opened.greet.announce := welcome_eq opened
  rw [eq, face_announce, greeted, face_signal, same]
  rfl

theorem face_disconnect (context : Option String) (expected : Bool) {s : Session κ η}
    (up : s.status.isUp = true) :
    (s.disconnect context expected).face = s.face.lost (s.status.cause expected) s.memory := by
  let cause := s.status.cause expected
  let parted := (s.farewell cause context).forget cause
  let closed : Session κ η :=
    { parted with channel := Channel.disconnect parted.channel }.record (.hungUp cause s.memory)
  let renewed := (closed.setUp .renewalFailed).2
  have closedFace : closed.face = { parted.face with ends := parted.face.ends ++
      [(cause, s.memory)] } := by
    simp [closed, face, record, journal, Journal.reports, Journal.ends, Event.report?, Event.ended?]
  have renewedFace : renewed.face = closed.face := face_setUp _ _
  have down : (renewed.status.disconnected cause).isUp = false := by cases cause <;> rfl
  have eq : s.disconnect context expected =
      { renewed with status := renewed.status.disconnected cause } := if_pos up
  have shown : (s.disconnect context expected).face = { renewed.face with up := false } := by
    rw [eq, ← down]
    rfl
  rw [shown, renewedFace, closedFace, face_parted]
  rfl

@[simp] theorem face_answerInvocation (caller : UInt16) (request : Bytes) (s : Session κ η) :
    (s.answerInvocation caller request).face = s.face := by
  unfold answerInvocation
  split
  · exact face_note _ s
  · dsimp only
    rw [face_send, face_note, face_noteAll]
    rfl

@[simp] theorem face_beat (s : Session κ η) : s.beat.face = s.face := by
  unfold beat
  dsimp only
  split
  · exact face_noteAll _ _
  · rw [face_send, face_noteAll]
    rfl

/-- A gate leaves the face as it is, or lowers the holding state under a link that is up. -/
theorem face_gate (name : String) (s : Session κ η) :
    (s.gate name).2.face = s.face ∨
      s.status.isUp = true ∧ (s.gate name).2.face = s.face.lowered := by
  cases allowed : s.isConnected && s.status.allows .call with
  | false => exact .inl (by rw [gate_shut allowed])
  | true =>
    obtain ⟨connected, -⟩ := Bool.and_eq_true_iff.mp allowed
    refine .inr ⟨(Bool.and_eq_true_iff.mp connected).1, ?_⟩
    rw [gate_cleared allowed]
    split
    · rw [face_noteAll]
      exact face_cleared name s
    · exact face_cleared name s

theorem face_hear (f : Frame) (c : κ) (s : Session κ η) :
    ({ s with channel := c }.hear f).face = s.face :=
  face_record rfl rfl _

theorem face_asking (payload : Bytes) (s : Session κ η) : (s.asking payload).face = s.face :=
  (face_send _ _ _).trans (face_delivered s)

theorem face_make (settings : SessionSettings) (listener : Listener) (channel : κ) (host : η) :
    (make settings listener channel host : Session κ η).face =
      Face.signal .starting ⟨false, .initial listener, [], []⟩ :=
  (face_setUp .firstSetupFailed _).trans (face_signal .starting _)

/-! ## Strides -/

/-- Who asks at some moment that the connection be ended, as expected or not. The host asks, or the
session itself does when its channel is lost; or a frame comes in that announces a return, and the
session that has taken note of it is asked. -/
inductive Requests : Bool → Session κ η → Session κ η → Prop where
  | asked (expected : Bool) (s : Session κ η) : Requests expected s s
  | reconnect {s : Session κ η} {c : κ} {f : Frame}
      (came : Channel.receive s.channel = (.frame f, c))
      (decoded : Command.decode f = .ok (some .reconnect)) :
      Requests true s ({ s with channel := c }.hear f).expecting

theorem Requests.face {expected : Bool} {s w : Session κ η} (h : Requests expected s w) :
    w.face = s.face := by
  cases h with
  | asked => rfl
  | reconnect => exact (face_expecting _).trans (face_hear _ _ s)

theorem Requests.isUp {expected : Bool} {s w : Session κ η} (h : Requests expected s w) :
    w.status.isUp = s.status.isUp := congrArg Face.up h.face

/-- What becomes of the face. -/
inductive Turns (s t : Session κ η) : Prop where
  | same (face : t.face = s.face)
  | lowered (up : s.status.isUp = true) (face : t.face = s.face.lowered)
  | entered (face : t.face = s.face.entered)
  | lost {expected : Bool} {context : Option String} {w : Session κ η}
      (request : Requests expected s w) (up : w.status.isUp = true)
      (eq : t = w.disconnect context expected)

variable [Host η]

theorem face_answerLookup (caller : UInt16) (name : String) (s : Session κ η) :
    (s.answerLookup caller name).face = s.face := by
  rcases answerLookup_cases caller name s with ⟨e, -, eq⟩ | ⟨payload, -, eq⟩
  · rw [eq, face_note, face_consulted]
  · rw [eq, face_send, face_consulted]

/-- Serving a frame leaves the face as it is, unless it is a reconnect. -/
theorem Served.face {f : Frame} {s t : Session κ η} {step : Step} (h : Served f s step t) :
    t.face = s.face ∨ s.status.isUp = true ∧ Command.decode f = .ok (some .reconnect) ∧
      t = s.expecting.disconnect none true := by
  cases h with
  | malformed => exact .inl (face_note _ s)
  | answer => exact .inl rfl
  | ping => exact .inl (face_send _ _ s)
  | print => exact .inl (face_note _ s)
  | alive => exact .inl rfl
  | registerCall => exact .inl (face_enterCallback _ s)
  | findNative => exact .inl (face_answerLookup _ _ s)
  | invokeNative => exact .inl (face_answerInvocation _ _ s)
  | reconnect decoded =>
    cases up : s.status.isUp with
    | true => exact .inr ⟨rfl, decoded, rfl⟩
    | false =>
      have down : ¬ s.expecting.status.isUp = true := by
        change ¬ s.status.isUp = true
        simp [up]
      have eq : s.expecting.disconnect none true = s.expecting := if_neg down
      rw [eq]
      exact .inl (face_expecting s)
  | disconnect => exact .inl (face_note _ s)
  | waits => exact .inl ((face_note _ _).trans (face_begun s))
  | restarts => exact .inl ((face_restart _).trans ((face_note _ _).trans (face_begun s)))
  | unknown => exact .inl ((face_note _ _).trans (face_begun s))
  | early => exact .inl ((face_note _ _).trans (face_begun s))
  | nested => exact .inl ((face_note _ _).trans ((face_note _ _).trans (face_begun s)))
  | unwritable => exact .inl ((face_note _ _).trans (face_delivered s))
  | unregistered => exact .inl (face_delivered s)

theorem Stride.turns {s t : Session κ η} (stride : Stride s t) : Turns s t := by
  cases stride with
  | passed c h => exact .same rfl
  | noted n => exact .same (face_note n s)
  | prepared => exact .same (face_prepare s)
  | entered came => exact .entered (face_takeIn _ s)
  | ended context expected =>
    by_cases up : s.status.isUp = true
    · exact .lost (.asked expected s) up rfl
    · have eq : s.disconnect context expected = s := if_neg up
      exact .same (by rw [eq])
  | @served _ _ c f _ came served =>
    have heard := face_hear f c s
    rcases served.face with same | ⟨up, decoded, eq⟩
    · exact .same (same.trans heard)
    · exact .lost (.reconnect came decoded) up eq
  | @asked _ c f payload came asks =>
    exact .same ((face_asking payload _).trans (face_hear f c s))
  | resumed reply => exact .same (face_noteSilence _ reply _)
  | beaten allowed =>
    have up : s.status.isUp = true := by
      simp only [Status.allows, Status.isLive, Bool.and_eq_true] at allowed
      exact allowed.1.1.1
    exact .lowered up ((face_beat _).trans (face_setHolding s))
  | observed name => exact .same (face_observe name s)
  | gated name =>
    rcases face_gate name s with same | ⟨up, lowered⟩
    · exact .same same
    · exact .lowered up lowered
  | called => exact .same (face_send _ _ s)

end Session

end HostLink
