import HostLink.Proofs.Channel
import HostLink.Session.Drive

/-!
# HostLink.Proofs.Session.Quiet

Most of what a session does leaves its link alone. An event is *quiet* unless it tells of a
connection that begins or ends, or of a frame that came in; two relations say that only quiet
events were entered, and one lemma for each operation of the session says which of them it keeps.

* `Still s t` — nothing that the session remembers has changed.
* `Calm s t`  — the link is as it was; while it is up the runtime may have announced a departure.

Either relation composes (`Still.trans`, `Calm.trans`). Both say that a lawful channel has not come
to be connected.
-/

namespace HostLink

/-- Whether an event leaves open where the link stands. -/
def Event.isQuiet {η : Type} : Event η → Bool
  | .report (.event _) => false
  | .letIn _ => false
  | .hungUp _ _ => false
  | .received _ => false
  | _ => true

namespace Journal

variable {η : Type}

/-- All events are quiet. -/
def Quiet (j : Journal η) : Prop := ∀ e ∈ j, e.isQuiet = true

@[simp] theorem quiet_nil : Quiet ([] : Journal η) := by simp [Quiet]

@[simp] theorem quiet_cons {e : Event η} {j : Journal η} :
    Quiet (e :: j) ↔ e.isQuiet = true ∧ Quiet j := by
  simp [Quiet]

@[simp] theorem quiet_append {j j' : Journal η} : Quiet (j ++ j') ↔ Quiet j ∧ Quiet j' := by
  simp [Quiet, or_imp, forall_and]

theorem quiet_notices (ns : List Notice) : Quiet (ns.map .notice : Journal η).reverse := by
  intro e he
  obtain ⟨n, -, rfl⟩ := List.mem_map.mp (List.mem_reverse.mp he)
  rfl

end Journal

namespace Session

variable {κ η : Type}

theorem journal_append {s t : Session κ η} (es : Journal η) (past : t.past = es ++ s.past) :
    t.journal = s.journal ++ es.reverse := by
  simp [journal, past]

theorem journal_hear [Channel κ] (f : Frame) (c : κ) (s : Session κ η) :
    ({ s with channel := c }.hear f).journal = s.journal ++ [.received f] :=
  journal_append [.received f] rfl

/-- Only quiet events were entered from `s` to `t`. -/
def Quietly (s t : Session κ η) : Prop :=
  ∃ es : Journal η, t.past = es ++ s.past ∧ es.Quiet

namespace Quietly

theorem of_eq {s t : Session κ η} (h : t.past = s.past) : Quietly s t := ⟨[], h, by simp⟩

theorem trans {s t u : Session κ η} (h : Quietly s t) (h' : Quietly t u) : Quietly s u := by
  obtain ⟨es, hes, qes⟩ := h
  obtain ⟨fs, hfs, qfs⟩ := h'
  exact ⟨fs ++ es, by rw [hfs, hes, List.append_assoc], Journal.quiet_append.mpr ⟨qfs, qes⟩⟩

end Quietly

theorem hear_holding (l : Listener) (on : Bool) : ∀ r ∈ l.hear (.holding on), r = .holding on := by
  cases l <;> simp [Listener.hear]

theorem set_listener (on : Bool) (h : Holding) : (h.set on).1.listener = h.listener := by
  unfold Holding.set
  split <;> rfl

theorem quiet_set (on : Bool) (h : Holding) :
    Journal.Quiet ((h.set on).2.map .report : Journal η).reverse := by
  intro e he
  obtain ⟨r, hr, rfl⟩ := List.mem_map.mp (List.mem_reverse.mp he)
  unfold Holding.set at hr
  split at hr
  · simp at hr
  · rw [hear_holding h.listener on r hr]
    rfl

/-- A transition is reported before the change of the holding state that it brings about. -/
theorem signal_past (e : Lifecycle) (s : Session κ η) : ∃ es : Journal η, es.Quiet ∧
    (s.signal e).past = es ++ ((s.holding.listener.hear (.event e)).map .report ++ s.past) := by
  refine ⟨_, quiet_set (Holding.onAfter e) { s.holding with last := some e }, ?_⟩
  cases h : s.holding.listener <;>
    simp [signal, Holding.signal, recordAll, Listener.hear, h]

theorem signal_listener (e : Lifecycle) (s : Session κ η) :
    (s.signal e).holding.listener = s.holding.listener :=
  set_listener (Holding.onAfter e) { s.holding with last := some e }

variable [Channel κ]

/-- A lawful channel has not come to be connected from `s` to `t`. -/
def NoNewPeer (s t : Session κ η) : Prop :=
  LawfulChannel κ → Channel.isConnected t.channel = true → Channel.isConnected s.channel = true

/-- Nothing that is remembered has changed, and only quiet events were entered. -/
structure Still (s t : Session κ η) : Prop where
  memory : t.memory = s.memory
  listener : t.holding.listener = s.holding.listener
  quiet : Quietly s t
  peer : NoNewPeer s t

/-- The link is as it was, and only quiet events were entered. -/
structure Calm (s t : Session κ η) : Prop where
  link : t.status.link = s.status.link
  intent : s.status.isUp = true →
    t.status.intent = s.status.intent ∨ t.status.intent = .disconnecting
  listener : t.holding.listener = s.holding.listener
  quiet : Quietly s t
  peer : NoNewPeer s t

namespace Still

theorem refl (s : Session κ η) : Still s s := ⟨rfl, rfl, .of_eq rfl, fun _ h => h⟩

theorem trans {s t u : Session κ η} (h : Still s t) (h' : Still t u) : Still s u where
  memory := h'.memory.trans h.memory
  listener := h'.listener.trans h.listener
  quiet := h.quiet.trans h'.quiet
  peer lawful up := h.peer lawful (h'.peer lawful up)

theorem status {s t : Session κ η} (h : Still s t) : t.status = s.status :=
  congrArg Memory.status h.memory

theorem natives {s t : Session κ η} (h : Still s t) : t.natives = s.natives :=
  congrArg Memory.natives h.memory

theorem callbacks {s t : Session κ η} (h : Still s t) : t.callbacks = s.callbacks :=
  congrArg Memory.callbacks h.memory

theorem calm {s t : Session κ η} (h : Still s t) : Calm s t where
  link := by rw [h.status]
  intent _ := .inl (by rw [h.status])
  listener := h.listener
  quiet := h.quiet
  peer := h.peer

end Still

namespace Calm

theorem isUp {s t : Session κ η} (h : Calm s t) : t.status.isUp = s.status.isUp := by
  simp only [Status.isUp, h.link]

theorem trans {s t u : Session κ η} (h : Calm s t) (h' : Calm t u) : Calm s u where
  link := h'.link.trans h.link
  intent up := by
    rcases h'.intent (h.isUp.trans up) with same | leaving
    · exact (h.intent up).imp same.trans same.trans
    · exact .inr leaving
  listener := h'.listener.trans h.listener
  quiet := h.quiet.trans h'.quiet
  peer lawful up := h.peer lawful (h'.peer lawful up)

/-- A change that enters nothing and leaves the link, the intent and the channel alone. -/
theorem of_eq {s t : Session κ η} (link : t.status.link = s.status.link)
    (intent : t.status.intent = s.status.intent)
    (listener : t.holding.listener = s.holding.listener) (past : t.past = s.past)
    (channel : t.channel = s.channel) : Calm s t where
  link := link
  intent _ := .inl intent
  listener := listener
  quiet := .of_eq past
  peer _ up := by rwa [channel] at up

end Calm

/-! ## Entering events -/

theorem still_record {e : Event η} (quiet : e.isQuiet = true) (s : Session κ η) :
    Still s (s.record e) :=
  ⟨rfl, rfl, ⟨[e], rfl, by simpa using quiet⟩, fun _ h => h⟩

theorem still_note (n : Notice) (s : Session κ η) : Still s (s.note n) := still_record rfl s

theorem still_noteAll (ns : List Notice) (s : Session κ η) : Still s (s.noteAll ns) :=
  ⟨rfl, rfl, ⟨_, rfl, Journal.quiet_notices ns⟩, fun _ h => h⟩

theorem still_noteSilence (callback : String) (reply : Option Bytes) (s : Session κ η) :
    Still s (s.noteSilence callback reply) := by
  unfold noteSilence
  split
  · exact .refl s
  · exact still_note _ s

theorem still_setHolding (on : Bool) (s : Session κ η) : Still s (s.setHolding on) :=
  ⟨rfl, set_listener on s.holding, ⟨_, rfl, quiet_set on s.holding⟩, fun _ h => h⟩

/-! ## The channel -/

/-- A change of the channel alone. -/
theorem still_channel {s : Session κ η} {c : κ}
    (peer : LawfulChannel κ → Channel.isConnected c = true →
      Channel.isConnected s.channel = true) : Still s { s with channel := c } :=
  ⟨rfl, rfl, .of_eq rfl, peer⟩

theorem still_setUp (failed : Fault → Notice) (s : Session κ η) : Still s (s.setUp failed).2 := by
  unfold setUp
  split
  · rename_i c heq
    have changed : Still s { s with channel := c } := still_channel fun lawful h =>
      lawful.setup_keeps s.channel (by rw [heq]; exact h)
    exact changed.trans (still_record rfl _)
  · rename_i e c heq
    have changed : Still s { s with channel := c } := still_channel fun lawful h =>
      lawful.setup_keeps s.channel (by rw [heq]; exact h)
    exact changed.trans ((still_record rfl _).trans (still_note _ _))

theorem still_prepare (s : Session κ η) : Still s s.prepare.2 := by
  unfold prepare
  split
  · exact .refl s
  · exact still_setUp _ s

theorem still_send (opcode : UInt8) (payload : Bytes) (s : Session κ η) :
    Still s (s.send opcode payload) := by
  unfold send
  split
  · rename_i c heq
    have changed : Still s { s with channel := c } := still_channel fun lawful h =>
      lawful.send_keeps _ s.channel (by rw [heq]; exact h)
    exact changed.trans (still_record rfl _)
  · rename_i e c heq
    have changed : Still s { s with channel := c } := still_channel fun lawful h =>
      lawful.send_keeps _ s.channel (by rw [heq]; exact h)
    exact changed.trans ((still_record rfl _).trans (still_note _ _))

theorem still_announce (s : Session κ η) : Still s s.announce := by
  have noted := still_noteAll (Announcement.notices s.settings) s
  unfold announce
  dsimp only
  split
  · exact noted.trans (still_note _ _)
  · exact noted.trans ((still_send _ _ _).trans ((still_note _ _).trans (still_note _ _)))

theorem still_receive {s : Session κ η} {r : Received} {c : κ}
    (h : Channel.receive s.channel = (r, c)) : Still s { s with channel := c } :=
  still_channel fun lawful up => lawful.receive_keeps s.channel (by rw [h]; exact up)

theorem still_refused {s : Session κ η} {r : Except Fault Bool} {c : κ}
    (h : Channel.connect s.channel = (r, c)) (alone : r ≠ .ok true) :
    Still s { s with channel := c } :=
  still_channel fun lawful up => by
    rcases lawful.connect_keeps s.channel (by rw [h]; exact up) with held | new
    · exact held
    · rw [h] at new
      exact absurd new alone

/-! ## Serving -/

theorem still_host (host : η) (s : Session κ η) : Still s { s with host := host } :=
  ⟨rfl, rfl, .of_eq rfl, fun _ h => h⟩

theorem still_detector (detector : Pause.Detector) (s : Session κ η) :
    Still s { s with detector := detector } :=
  ⟨rfl, rfl, .of_eq rfl, fun _ h => h⟩

theorem calm_enterCallback (record : Bytes) (s : Session κ η) :
    Calm s (s.enterCallback record) := by
  unfold enterCallback
  split
  · exact (still_note _ s).calm
  · rename_i name callbacks _
    have entered : Calm s { s with callbacks := callbacks } := .of_eq rfl rfl rfl rfl rfl
    dsimp only
    exact entered.trans ((still_note _ _).trans (still_note _ _)).calm

theorem still_answerInvocation (caller : UInt16) (request : Bytes) (s : Session κ η) :
    Still s (s.answerInvocation caller request) := by
  unfold answerInvocation
  split
  · exact still_note _ s
  · dsimp only
    exact (still_host _ s).trans
      ((still_noteAll _ _).trans ((still_note _ _).trans (still_send _ _ _)))

theorem still_beat (s : Session κ η) : Still s s.beat := by
  unfold beat
  dsimp only
  split
  · exact (still_detector _ s).trans (still_noteAll _ _)
  · exact (still_detector _ s).trans ((still_noteAll _ _).trans (still_send _ _ _))

section Serving

variable [Host η]

/-- The session when a native has been looked up and no answer has been sent. -/
def consulted (name : String) (s : Session κ η) : Session κ η :=
  let done := s.natives.resolve name s.host
  let looked : Session κ η := { s with natives := done.table, host := done.host }
  (done.answer.elim looked fun answer => looked.record (.asked name answer)).noteAll
    (lookupNotices name done.lookup)

theorem answerLookup_cases (caller : UInt16) (name : String) (s : Session κ η) :
    let answer := LookupAnswer.encode ⟨caller, (s.natives.resolve name s.host).lookup.handle?⟩
    (∃ e, answer = .error e ∧
        s.answerLookup caller name = (s.consulted name).note (.handleReplyFailed e)) ∨
      ∃ payload, answer = .ok payload ∧
        s.answerLookup caller name = (s.consulted name).send Opcode.reply payload := by
  unfold answerLookup consulted
  dsimp only
  cases LookupAnswer.encode ⟨caller, (s.natives.resolve name s.host).lookup.handle?⟩ <;>
    cases (s.natives.resolve name s.host).answer <;> simp

theorem calm_consulted (name : String) (s : Session κ η) : Calm s (s.consulted name) := by
  let done := s.natives.resolve name s.host
  let looked : Session κ η := { s with natives := done.table, host := done.host }
  have resolved : Calm s looked := .of_eq rfl rfl rfl rfl rfl
  unfold consulted
  dsimp only
  cases done.answer with
  | none => exact resolved.trans (still_noteAll _ looked).calm
  | some answer =>
    have asked : Still looked (looked.record (.asked name answer)) := still_record rfl looked
    exact resolved.trans (asked.trans (still_noteAll _ _)).calm

theorem calm_answerLookup (caller : UInt16) (name : String) (s : Session κ η) :
    Calm s (s.answerLookup caller name) := by
  have consulted := s.calm_consulted name
  rcases answerLookup_cases caller name s with ⟨e, -, eq⟩ | ⟨payload, -, eq⟩ <;> rw [eq]
  · exact consulted.trans (still_note _ _).calm
  · exact consulted.trans (still_send _ _ _).calm

theorem still_restart (s : Session κ η) : Still s s.restart := by
  unfold restart
  split
  · exact (still_note _ s).trans ((still_host _ _).trans (still_record rfl _))
  · exact .refl s

end Serving

end Session

end HostLink
