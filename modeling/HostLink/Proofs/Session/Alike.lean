import HostLink.Proofs.Channel.Insertion
import HostLink.Proofs.Session.Handshake

/-!
# HostLink.Proofs.Session.Alike

Sessions that are alike but for what nobody has from them: their channels, what came in, what was
remarked on, and when they were last heard from, which does not matter to a detector that is off
(`Alike`). There is one lemma for each thing that a session does. It leaves two sessions alike, if
what it does with the one channel goes along with what it does with the other.
-/

namespace HostLink

/-- Whether an event is something that was done or found, other than a remark or a frame that came
in. -/
def Event.isShown {η : Type} : Event η → Bool
  | .notice _ => false
  | .received _ => false
  | _ => true

namespace Journal

variable {η : Type}

def shown (j : Journal η) : Journal η := j.filter Event.isShown

theorem shown_append (j j' : Journal η) : shown (j ++ j') = j.shown ++ j'.shown :=
  List.filter_append j j'

theorem shown_notices (ns : List Notice) : shown (ns.map .notice : Journal η).reverse = [] := by
  refine List.filter_eq_nil_iff.mpr ?_
  intro e mem
  obtain ⟨n, -, rfl⟩ := List.mem_map.mp (List.mem_reverse.mp mem)
  simp [Event.isShown]

end Journal

namespace Session

variable {κ κ' η : Type}

/-- The session over another channel, with another detector and another past. -/
def dressed (c : κ') (d : Pause.Detector) (past : List (Event η)) (s : Session κ η) :
    Session κ' η where
  settings := s.settings
  channel := c
  host := s.host
  status := s.status
  natives := s.natives
  callbacks := s.callbacks
  detector := d
  holding := s.holding
  delivering := s.delivering
  lent := s.lent
  past := past

/-- The sessions are alike, and their channels are related. -/
inductive Alike (rel : κ → κ' → Prop) (s : Session κ η) : Session κ' η → Prop where
  | mk {c : κ'} {d : Pause.Detector} {past : List (Event η)} (channel : rel s.channel c)
      (off : s.detector.settings.enabled = false) (off' : d.settings.enabled = false)
      (shown : Journal.shown past = Journal.shown s.past) : Alike rel s (s.dressed c d past)

namespace Alike

variable {rel : κ → κ' → Prop} {s : Session κ η} {s' : Session κ' η}

theorem eq_dressed (alike : Alike rel s s') : ∃ c d past, s' = s.dressed c d past := by
  cases alike
  exact ⟨_, _, _, rfl⟩

/-! ## What is not done with a channel -/

theorem rechannel (alike : Alike rel s s') {rel' : κ → κ' → Prop} {c : κ} {c' : κ'}
    (channel : rel' c c') : Alike rel' { s with channel := c } { s' with channel := c' } := by
  cases alike with
  | mk _ off off' shown => exact .mk (s := { s with channel := c }) channel off off' shown

theorem note (alike : Alike rel s s') (n n' : Notice) : Alike rel (s.note n) (s'.note n') := by
  cases alike with
  | mk channel off off' shown => exact .mk (s := s.note n) channel off off' shown

/-- A remark that is made on one side. -/
theorem noteRight (alike : Alike rel s s') (n : Notice) : Alike rel s (s'.note n) := by
  cases alike with
  | mk channel off off' shown => exact .mk (s := s) channel off off' shown

theorem recordAll (alike : Alike rel s s') (es : Journal η) :
    Alike rel (s.recordAll es) (s'.recordAll es) := by
  cases alike with
  | @mk c d past channel off off' shown =>
    have both : Journal.shown (es.reverse ++ past) = Journal.shown (es.reverse ++ s.past) := by
      rw [Journal.shown_append, Journal.shown_append, shown]
    exact .mk (s := s.recordAll es) channel off off' both

theorem record (alike : Alike rel s s') (e : Event η) : Alike rel (s.record e) (s'.record e) :=
  alike.recordAll [e]

theorem noteAll (alike : Alike rel s s') (ns ns' : List Notice) :
    Alike rel (s.noteAll ns) (s'.noteAll ns') := by
  cases alike with
  | @mk c d past channel off off' shown =>
    have both : Journal.shown ((ns'.map .notice : Journal η).reverse ++ past) =
        Journal.shown ((ns.map .notice : Journal η).reverse ++ s.past) := by
      rw [Journal.shown_append, Journal.shown_append, Journal.shown_notices,
        Journal.shown_notices, shown]
    exact .mk (s := s.noteAll ns) channel off off' both

theorem noteSilence (alike : Alike rel s s') (callback : String) (reply : Option Bytes) :
    Alike rel (s.noteSilence callback reply) (s'.noteSilence callback reply) := by
  unfold Session.noteSilence
  split
  · exact alike
  · exact alike.note _ _

theorem restate (alike : Alike rel s s') (f : Status → Status) :
    Alike rel { s with status := f s.status } { s' with status := f s'.status } := by
  cases alike with
  | mk channel off off' shown =>
    exact .mk (s := { s with status := f s.status }) channel off off' shown

theorem deliver (alike : Alike rel s s') (delivering : Bool) :
    Alike rel { s with delivering := delivering } { s' with delivering := delivering } := by
  cases alike with
  | mk channel off off' shown =>
    exact .mk (s := { s with delivering := delivering }) channel off off' shown

theorem rehost (alike : Alike rel s s') (h : η) :
    Alike rel { s with host := h } { s' with host := h } := by
  cases alike with
  | mk channel off off' shown => exact .mk (s := { s with host := h }) channel off off' shown

theorem retable (alike : Alike rel s s') (natives : Native.Table η) (callbacks : Callback.Table) :
    Alike rel { s with natives := natives, callbacks := callbacks }
      { s' with natives := natives, callbacks := callbacks } := by
  cases alike with
  | mk channel off off' shown =>
    exact .mk (s := { s with natives := natives, callbacks := callbacks }) channel off off' shown

theorem signal (alike : Alike rel s s') (e : Lifecycle) :
    Alike rel (s.signal e) (s'.signal e) := by
  cases alike with
  | @mk c d past channel off off' shown =>
    let t : Session κ η := { s with holding := (s.holding.signal e).1 }
    have told : Alike rel t (t.dressed c d past) := .mk channel off off' shown
    exact told.recordAll ((s.holding.signal e).2.map .report)

theorem setHolding (alike : Alike rel s s') (on : Bool) :
    Alike rel (s.setHolding on) (s'.setHolding on) := by
  cases alike with
  | @mk c d past channel off off' shown =>
    let t : Session κ η := { s with holding := (s.holding.set on).1 }
    have told : Alike rel t (t.dressed c d past) := .mk channel off off' shown
    exact told.recordAll ((s.holding.set on).2.map .report)

theorem settings (alike : Alike rel s s') : s'.settings = s.settings := by
  cases alike
  rfl

theorem status (alike : Alike rel s s') : s'.status = s.status := by
  cases alike
  rfl

theorem delivering (alike : Alike rel s s') : s'.delivering = s.delivering := by
  cases alike
  rfl

theorem memory (alike : Alike rel s s') : s'.memory = s.memory := by
  cases alike
  rfl

theorem channel (alike : Alike rel s s') : rel s.channel s'.channel := by
  cases alike
  assumption

theorem shown (alike : Alike rel s s') : Journal.shown s'.past = Journal.shown s.past := by
  cases alike
  assumption

theorem callPayload (alike : Alike rel s s') (caller : UInt16) (name : String)
    (params : List Callback.Param) :
    s'.callPayload caller name params = s.callPayload caller name params := by
  cases alike
  rfl

theorem enterCallback (alike : Alike rel s s') (record : Bytes) :
    Alike rel (s.enterCallback record) (s'.enterCallback record) := by
  obtain ⟨c, d, past, rfl⟩ := alike.eq_dressed
  cases entered : s.callbacks.register record with
  | error e =>
    simp only [Session.enterCallback, dressed, entered]
    exact alike.note _ _
  | ok r =>
    obtain ⟨name, callbacks⟩ := r
    simp only [Session.enterCallback, dressed, entered]
    exact ((alike.retable s.natives callbacks).note _ _).note _ _

theorem observe (alike : Alike rel s s') (name : String) :
    Alike rel (s.observe name) (s'.observe name) := by
  obtain ⟨c, d, past, rfl⟩ := alike.eq_dressed
  unfold Session.observe
  change Alike rel _ (if name = s.settings.initCallback then _
    else if name = s.settings.exitCallback then _ else _)
  split
  · exact alike.restate Status.hostStarted
  · split
    · exact alike.restate Status.hostEnded
    · exact alike

theorem farewell (alike : Alike rel s s') (cause : Cause) (context : Option String) :
    Alike rel (s.farewell cause context) (s'.farewell cause context) := by
  cases cause with
  | expected => exact (alike.note _ _).signal _
  | declared => exact (alike.note _ _).signal _
  | unexpected => exact (alike.note _ _).signal _

theorem forget (alike : Alike rel s s') (cause : Cause) :
    Alike rel (s.forget cause) (s'.forget cause) := by
  unfold Session.forget
  split
  · exact alike.retable .empty .empty
  · exact alike

/-- A detector that is off may be replaced by another that is off. -/
theorem redetect (alike : Alike rel s s') {d d' : Pause.Detector}
    (off : d.settings.enabled = false) (off' : d'.settings.enabled = false) :
    Alike rel { s with detector := d } { s' with detector := d' } := by
  cases alike with
  | mk channel _ _ shown => exact .mk (s := { s with detector := d }) channel off off' shown

theorem off (alike : Alike rel s s') :
    s.detector.settings.enabled = false ∧ s'.detector.settings.enabled = false := by
  cases alike with
  | mk _ off off' _ => exact ⟨off, off'⟩

theorem begun (alike : Alike rel s s') : Alike rel s.begun s'.begun :=
  (alike.note .remoteStarted .remoteStarted).restate Status.remoteStarted

theorem delivered (alike : Alike rel s s') : Alike rel s.delivered s'.delivered :=
  (alike.begun.note .startsFaking .startsFaking).restate fun status => status.initDelivered

theorem expecting (alike : Alike rel s s') : Alike rel s.expecting s'.expecting :=
  (alike.note .remoteReconnecting .remoteReconnecting).restate Status.reconnectRequested

theorem resumed (alike : Alike rel s s') (reply : Option Bytes) :
    Alike rel (s.resumed reply) (s'.resumed reply) := by
  obtain ⟨c, d, past, rfl⟩ := alike.eq_dressed
  exact (alike.deliver false).noteSilence s.settings.initCallback reply

section Host

variable [Host η]

theorem restart (alike : Alike rel s s') : Alike rel s.restart s'.restart := by
  obtain ⟨c, d, past, rfl⟩ := alike.eq_dressed
  unfold Session.restart
  change Alike rel _ (if s.status.hostInit then _ else _)
  split
  · exact ((alike.note _ _).rehost _).record _
  · exact alike

theorem consulted (alike : Alike rel s s') (name : String) :
    Alike rel (s.consulted name) (s'.consulted name) := by
  obtain ⟨c, d, past, rfl⟩ := alike.eq_dressed
  let done := s.natives.resolve name s.host
  let t : Session κ η := { s with natives := done.table, host := done.host }
  have looked : Alike rel t (t.dressed c d past) :=
    (alike.retable done.table s.callbacks).rehost done.host
  unfold Session.consulted
  change Alike rel ((done.answer.elim t fun answer => t.record (.asked name answer)).noteAll _)
    ((done.answer.elim (t.dressed c d past) fun answer =>
      (t.dressed c d past).record (.asked name answer)).noteAll _)
  cases done.answer with
  | none => exact looked.noteAll _ _
  | some answer => exact (looked.record _).noteAll _ _

end Host

theorem cleared (alike : Alike rel s s') (name : String) :
    Alike rel (s.cleared name) (s'.cleared name) := by
  obtain ⟨c, d, past, rfl⟩ := alike.eq_dressed
  unfold Session.cleared
  change Alike rel _ (if name = s.settings.initCallback then _ else _)
  split
  · exact (alike.setHolding false).restate fun _ => s.status.initDelivered
  · exact alike.setHolding false

variable [Channel κ']

/-- A frame that comes in on one side. -/
theorem hearRight (alike : Alike rel s s') (f : Frame) : Alike rel s (s'.hear f) := by
  cases alike with
  | mk channel off off' shown => exact .mk (s := s) channel off off' shown

variable [Channel κ]

theorem hear (alike : Alike rel s s') (f : Frame) : Alike rel (s.hear f) (s'.hear f) := by
  cases alike with
  | mk channel off off' shown =>
    exact .mk (s := s.hear f) channel off off' shown

/-! ## What is done with a channel -/

variable {ins : Insertion κ κ'}

theorem isConnected (alike : Alike ins.rel s s') : s'.isConnected = s.isConnected := by
  unfold Session.isConnected
  rw [alike.status, ins.isConnected alike.channel]

theorem setUp (alike : Alike ins.rel s s') (failed : Fault → Notice) :
    (s'.setUp failed).1 = (s.setUp failed).1 ∧
      Alike ins.rel (s.setUp failed).2 (s'.setUp failed).2 := by
  obtain ⟨same, rel⟩ := ins.setup alike.channel
  unfold Session.setUp
  rcases ready : Channel.setup s.channel with ⟨r, c⟩
  rcases ready' : Channel.setup s'.channel with ⟨r', c'⟩
  rw [ready, ready'] at same rel
  obtain rfl : r' = r := same
  have moved := alike.rechannel rel
  cases r' with
  | ok u => exact ⟨rfl, moved.record _⟩
  | error e => exact ⟨rfl, (moved.record _).note _ _⟩

theorem prepare (alike : Alike ins.rel s s') :
    s'.prepare.1 = s.prepare.1 ∧ Alike ins.rel s.prepare.2 s'.prepare.2 := by
  unfold Session.prepare
  rw [ins.isReady alike.channel]
  split
  · exact ⟨rfl, alike⟩
  · exact alike.setUp _

theorem send (alike : Alike ins.rel s s') (opcode : UInt8) (payload : Bytes) :
    Alike ins.rel (s.send opcode payload) (s'.send opcode payload) := by
  obtain ⟨same, rel⟩ := ins.send ⟨opcode, payload⟩ alike.channel
  have status := alike.status
  unfold Session.send
  rcases sent : Channel.send ⟨opcode, payload⟩ s.channel with ⟨r, c⟩
  rcases sent' : Channel.send ⟨opcode, payload⟩ s'.channel with ⟨r', c'⟩
  rw [sent, sent'] at same rel
  obtain rfl : r' = r := same
  have moved := alike.rechannel rel
  cases r' with
  | ok u =>
    dsimp only
    rw [congrArg (Event.sent (η := η) ⟨opcode, payload⟩) status]
    exact moved.record _
  | error e =>
    dsimp only
    rw [congrArg (Event.unsent (η := η) ⟨opcode, payload⟩) status]
    exact (moved.record _).note _ _

theorem announce (alike : Alike ins.rel s s') : Alike ins.rel s.announce s'.announce := by
  unfold Session.announce
  rw [alike.settings]
  dsimp only
  have noted := alike.noteAll (Announcement.notices s.settings) (Announcement.notices s.settings)
  cases (Announcement.ofSettings s.settings).encode with
  | error e => exact noted.note _ _
  | ok payload => exact ((noted.send _ _).note _ _).note _ _

theorem takeIn (alike : Alike rel s s') {c : κ} {c' : κ'} (channel : ins.rel c c') :
    Alike ins.rel (s.takeIn c) (s'.takeIn c') := by
  obtain ⟨_, d, past, rfl⟩ := alike.eq_dressed
  have opened := (alike.rechannel channel).record (.letIn s.memory)
  have signalled := (opened.signal .connected).restate Status.connected
  exact (signalled.note (.clientConnected s.status.isReturning)
    (.clientConnected s.status.isReturning)).announce

/-- Letting a runtime in comes to the same on both sides. -/
theorem connect (alike : Alike ins.rel s s') :
    s'.connect.1 = s.connect.1 ∧ Alike ins.rel s.connect.2 s'.connect.2 := by
  unfold Session.connect
  rw [ins.isConnected alike.channel]
  split
  · exact ⟨rfl, alike⟩
  · obtain ⟨same, prepared⟩ := alike.prepare
    rcases ready : s.prepare with ⟨b, t⟩
    rcases ready' : s'.prepare with ⟨b', t'⟩
    rw [ready, ready'] at same prepared
    obtain rfl : b' = b := same
    cases b' with
    | false => exact ⟨rfl, prepared⟩
    | true =>
      obtain ⟨same, rel⟩ := ins.connect prepared.channel
      dsimp only at same rel ⊢
      rcases came : Channel.connect t.channel with ⟨r, c⟩
      rcases came' : Channel.connect t'.channel with ⟨r', c'⟩
      rw [came, came'] at same rel
      obtain rfl : r' = r := same
      cases r' with
      | ok b =>
        cases b with
        | true =>
          dsimp only
          exact ⟨rfl, prepared.takeIn rel⟩
        | false =>
          dsimp only
          exact ⟨rfl, prepared.rechannel rel⟩
      | error e =>
        dsimp only
        exact ⟨rfl, (prepared.rechannel rel).note _ _⟩

theorem renewChannel (alike : Alike ins.rel s s') (cause : Cause) (kept : Memory η) :
    Alike ins.rel (s.renewChannel cause kept) (s'.renewChannel cause kept) := by
  have closed := alike.rechannel (ins.disconnect alike.channel)
  exact ((closed.record (.hungUp cause kept)).setUp .renewalFailed).2

theorem disconnect (alike : Alike ins.rel s s') (context : Option String) (expected : Bool) :
    Alike ins.rel (s.disconnect context expected) (s'.disconnect context expected) := by
  unfold Session.disconnect
  rw [alike.status, alike.memory]
  dsimp only
  generalize s.status.cause expected = cause
  generalize s.memory = kept
  split
  · have parted := (alike.farewell cause context).forget cause
    exact (parted.renewChannel cause kept).restate (Status.disconnected cause)
  · exact alike

theorem asking (alike : Alike ins.rel s s') (payload : Bytes) :
    Alike ins.rel (s.asking payload) (s'.asking payload) :=
  (alike.delivered.deliver true).send _ _

theorem answerInvocation (alike : Alike ins.rel s s') (caller : UInt16) (request : Bytes) :
    Alike ins.rel (s.answerInvocation caller request) (s'.answerInvocation caller request) := by
  obtain ⟨c, d, past, rfl⟩ := alike.eq_dressed
  cases put : (Cell.Writer.empty s.settings.maxPayloadSize.toNat).put (.u16 caller) with
  | error e =>
    simp only [Session.answerInvocation, dressed, put]
    exact alike.note _ _
  | ok w =>
    simp only [Session.answerInvocation, dressed, put]
    exact (((alike.rehost _).noteAll _ _).note _ _).send _ _

omit [Channel κ'] in
theorem beat_off {s : Session κ η} (off : s.detector.settings.enabled = false) :
    s.beat = ({ s with detector := s.detector.heartbeat (Channel.now s.channel) }.noteAll []).send
      Opcode.tick [] := by
  simp only [Session.beat, Pause.Detector.checkTick, off, Bool.not_false, if_true]

theorem beat (alike : Alike ins.rel s s') : Alike ins.rel s.beat s'.beat := by
  obtain ⟨off, off'⟩ := alike.off
  rw [beat_off off, beat_off off']
  have beaten (now now' : Int) : Alike ins.rel { s with detector := s.detector.heartbeat now }
      { s' with detector := s'.detector.heartbeat now' } := alike.redetect off off'
  exact ((beaten _ _).noteAll [] []).send _ _

theorem heartbeat (alike : Alike ins.rel s s') : Alike ins.rel s.heartbeat s'.heartbeat := by
  unfold Session.heartbeat
  rw [alike.isConnected, alike.status]
  split
  · exact (alike.setHolding false).beat
  · exact alike

theorem gate (alike : Alike ins.rel s s') (name : String) :
    (s'.gate name).1 = (s.gate name).1 ∧ Alike ins.rel (s.gate name).2 (s'.gate name).2 := by
  have connected := alike.isConnected
  have status := alike.status
  cases allowed : s.isConnected && s.status.allows .call with
  | false =>
    have allowed' : (s'.isConnected && s'.status.allows .call) = false := by
      rw [connected, status, allowed]
    rw [gate_shut allowed, gate_shut allowed']
    exact ⟨rfl, alike⟩
  | true =>
    have allowed' : (s'.isConnected && s'.status.allows .call) = true := by
      rw [connected, status, allowed]
    have cleared := alike.cleared name
    obtain ⟨off, off'⟩ := cleared.off
    rw [gate_cleared allowed, gate_cleared allowed', cleared.status]
    split
    · refine ⟨?_, ?_⟩
      · simp only [Pause.Detector.checkCall, off, off', Bool.not_false, if_true]
      · simp only [Pause.Detector.checkCall, off, off', Bool.not_false, if_true]
        exact cleared.noteAll _ _
    · exact ⟨rfl, cleared⟩

theorem answerLookup [Host η] (alike : Alike ins.rel s s') (caller : UInt16) (name : String) :
    Alike ins.rel (s.answerLookup caller name) (s'.answerLookup caller name) := by
  have consulted := alike.consulted name
  have same : s'.natives.resolve name s'.host = s.natives.resolve name s.host := by
    cases alike
    rfl
  rcases answerLookup_cases caller name s with ⟨e, answer, eq⟩ | ⟨payload, answer, eq⟩
  · rcases answerLookup_cases caller name s' with ⟨e', _, eq'⟩ | ⟨payload', answer', _⟩
    · rw [eq, eq']
      exact consulted.note _ _
    · rw [same, answer] at answer'
      cases answer'
  · rcases answerLookup_cases caller name s' with ⟨e', answer', _⟩ | ⟨payload', answer', eq'⟩
    · rw [same, answer] at answer'
      cases answer'
    · rw [same, answer] at answer'
      cases answer'
      rw [eq, eq']
      exact consulted.send _ _

end Alike

end Session

end HostLink
