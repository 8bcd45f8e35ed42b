import HostLink.Proofs.Native.Table
import HostLink.Proofs.Session.Course

/-!
# HostLink.Proofs.Session.Traffic

What goes on between a session and its runtimes. Of the events in a journal some are about them:
frames both ways, lookups, comings and goings. These are the *traffic*; notices, reports, setups
and commands are not. Of what a session remembers, the *gist* is the link, the intent and the
tables.

* `offers_send` — a frame that is sent, or refused by the channel, is one event of the traffic.
* `traffic_disconnect`, `offers_announce`, `beat_cases`, `traffic_consulted`,
  `answerInvocation_wide` — what the operations that have to do with a runtime add to it.

All other operations leave the traffic as it is.
-/

namespace HostLink

/-- Whether an event is about a runtime. -/
def Event.isTraffic {η : Type} : Event η → Bool
  | .notice _ => false
  | .report _ => false
  | .setUp => false
  | .command _ => false
  | _ => true

/-- The frame that is handed to the channel, taken or not, and the status under which it is. -/
def Event.offered? {η : Type} : Event η → Option (Frame × Status)
  | .sent f status => some (f, status)
  | .unsent f status => some (f, status)
  | _ => none

theorem Event.eq_of_offered {η : Type} {e : Event η} {f : Frame} {status : Status}
    (h : e.offered? = some (f, status)) : e = .sent f status ∨ e = .unsent f status := by
  cases e with
  | sent => cases h; exact .inl rfl
  | unsent => cases h; exact .inr rfl
  | _ => cases h

theorem Event.traffic_of_offered {η : Type} {e : Event η} {f : Frame} {status : Status}
    (h : e.offered? = some (f, status)) : e.isTraffic = true := by
  rcases Event.eq_of_offered h with rfl | rfl <;> rfl

namespace Journal

variable {η α : Type}

/-- A reading of a journal that passes over everything but the traffic. -/
theorem foldl_traffic {read : α → Event η → α} (a : α)
    (aside : ∀ a e, e.isTraffic = false → read a e = a) (j : Journal η) :
    (j.filter Event.isTraffic).foldl read a = j.foldl read a := by
  induction j generalizing a with
  | nil => rfl
  | cons e es ih =>
    cases h : e.isTraffic with
    | true => simp [h, ih]
    | false => simp [h, ih, aside a e h]

theorem filterMap_traffic {pick : Event η → Option α}
    (aside : ∀ e, e.isTraffic = false → pick e = none) (j : Journal η) :
    (j.filter Event.isTraffic).filterMap pick = j.filterMap pick := by
  induction j with
  | nil => rfl
  | cons e es ih =>
    cases h : e.isTraffic with
    | true => simp [List.filterMap_cons, h, ih]
    | false => simp [h, ih, aside e h]

/-- Each event of a journal stands as it should between those before it, the events of `seen`
first, and those behind it. -/
def Each (P : Journal η → Event η → Journal η → Prop) : Journal η → Journal η → Prop
  | [], _ => True
  | e :: es, seen => P seen e es ∧ Each P es (seen ++ [e])

variable {P : Journal η → Event η → Journal η → Prop}

theorem Each.append {es fs seen : Journal η} (h : es.Each P seen) (h' : fs.Each P (seen ++ es))
    (more : ∀ seen e after rest, P seen e after → P seen e (after ++ rest)) :
    (es ++ fs).Each P seen := by
  induction es generalizing seen with
  | nil => simpa using h'
  | cons e es ih => exact ⟨more _ _ _ _ h.1, ih h.2 (by simpa using h')⟩

theorem Each.imp {Q : Journal η → Event η → Journal η → Prop} {es seen : Journal η}
    (h : es.Each P seen) (weaker : ∀ before e after, P before e after → Q before e after) :
    es.Each Q seen := by
  induction es generalizing seen with
  | nil => trivial
  | cons e es ih => exact ⟨weaker _ _ _ h.1, ih h.2⟩

theorem Each.at {before after seen : Journal η} {e : Event η}
    (h : (before ++ e :: after).Each P seen) : P (seen ++ before) e after := by
  induction before generalizing seen with
  | nil => simpa using h.1
  | cons b before ih => simpa using ih h.2

theorem each_of_forall {es : Journal η} (h : ∀ e ∈ es, ∀ seen after, P seen e after)
    (seen : Journal η) : es.Each P seen := by
  induction es generalizing seen with
  | nil => trivial
  | cons e es ih =>
    obtain ⟨first, rest⟩ := List.forall_mem_cons.mp h
    exact ⟨first seen es, ih rest _⟩

end Journal

/-- The gist of what a session remembers. -/
structure Gist (η : Type) where
  link : Link
  intent : Intent
  natives : Native.Table η
  callbacks : Callback.Table

def Memory.gist {η : Type} (m : Memory η) : Gist η :=
  ⟨m.status.link, m.status.intent, m.natives, m.callbacks⟩

namespace Session

variable {κ η : Type}

def traffic (s : Session κ η) : Journal η := s.journal.filter Event.isTraffic

def gist (s : Session κ η) : Gist η := s.memory.gist

theorem traffic_record (e : Event η) (s : Session κ η) :
    (s.record e).traffic = s.traffic ++ [e].filter Event.isTraffic := by
  simp [traffic, journal, record]

theorem traffic_recordAll (es : Journal η) (s : Session κ η) :
    (s.recordAll es).traffic = s.traffic ++ es.filter Event.isTraffic := by
  simp [traffic, journal, recordAll]

@[simp] theorem traffic_note (n : Notice) (s : Session κ η) : (s.note n).traffic = s.traffic := by
  simp [note, traffic_record, Event.isTraffic]

@[simp] theorem traffic_noteAll (ns : List Notice) (s : Session κ η) :
    (s.noteAll ns).traffic = s.traffic := by
  simp [noteAll, traffic_recordAll, Event.isTraffic]

theorem traffic_reports (rs : List Report) (s : Session κ η) :
    (s.recordAll (rs.map .report)).traffic = s.traffic := by
  simp [traffic_recordAll, Event.isTraffic]

@[simp] theorem traffic_signal (e : Lifecycle) (s : Session κ η) :
    (s.signal e).traffic = s.traffic :=
  traffic_reports (s.holding.signal e).2 { s with holding := (s.holding.signal e).1 }

@[simp] theorem traffic_setHolding (on : Bool) (s : Session κ η) :
    (s.setHolding on).traffic = s.traffic :=
  traffic_reports (s.holding.set on).2 { s with holding := (s.holding.set on).1 }

@[simp] theorem traffic_noteSilence (name : String) (reply : Option Bytes) (s : Session κ η) :
    (s.noteSilence name reply).traffic = s.traffic := by
  unfold noteSilence
  split
  · rfl
  · exact traffic_note _ s

@[simp] theorem traffic_observe (name : String) (s : Session κ η) :
    (s.observe name).traffic = s.traffic := by
  unfold observe
  split
  · rfl
  · split <;> rfl

@[simp] theorem traffic_enterCallback (record : Bytes) (s : Session κ η) :
    (s.enterCallback record).traffic = s.traffic := by
  unfold enterCallback
  split
  · exact traffic_note _ s
  · rename_i name callbacks _
    dsimp only
    rw [traffic_note, traffic_note]
    rfl

theorem gist_observe (name : String) (s : Session κ η) : (s.observe name).gist = s.gist := by
  unfold observe
  split
  · rfl
  · split <;> rfl

section Serving

variable [Host η]

@[simp] theorem traffic_restart (s : Session κ η) : s.restart.traffic = s.traffic := by
  unfold restart
  split
  · dsimp only
    rw [traffic_record]
    simp only [Event.isTraffic, Bool.false_eq_true, not_false_eq_true, List.filter_cons_of_neg,
      List.filter_nil, List.append_nil]
    exact traffic_note _ s
  · rfl

theorem traffic_consulted (name : String) (s : Session κ η) :
    (s.consulted name).traffic =
      s.traffic ++ (s.natives.resolve name s.host).answer.toList.map (.asked name) := by
  unfold consulted
  dsimp only
  cases (s.natives.resolve name s.host).answer with
  | none =>
    rw [Option.elim_none, traffic_noteAll]
    exact (List.append_nil _).symm
  | some answer =>
    rw [Option.elim_some, traffic_noteAll, traffic_record]
    rfl

theorem status_consulted (name : String) (s : Session κ η) :
    (s.consulted name).status = s.status := by
  unfold consulted
  dsimp only
  cases (s.natives.resolve name s.host).answer <;> rfl

theorem gist_consulted (name : String) (s : Session κ η) : (s.consulted name).gist =
    { s.gist with natives := (s.natives.resolve name s.host).table } := by
  unfold consulted
  dsimp only
  cases (s.natives.resolve name s.host).answer <;> rfl

/-- The answer to a lookup as a payload. -/
def lookupReply (caller : UInt16) (name : String) (s : Session κ η) : Bytes :=
  Bytes.ofU16 caller ++ Bytes.ofU32 (((s.natives.resolve name s.host).lookup.handle?).getD
    LookupAnswer.noHandle).toUInt32

end Serving

/-- The answer to an invocation as a payload. -/
def invocationReply (caller : UInt16) (request : Bytes) (s : Session κ η) : Bytes :=
  (s.natives.invoke request ⟨Bytes.ofU16 caller, s.settings.maxPayloadSize.toNat⟩
    s.host).writer.bytes

theorem callPayload_short {caller : UInt16} {name : String} {params : List Callback.Param}
    {s : Session κ η} {payload : Bytes}
    (written : s.callPayload caller name params = .ok (some payload)) :
    payload.length ≤ s.settings.maxPayloadSize.toNat := by
  unfold callPayload at written
  split at written
  · rename_i w heq
    cases written
    have grown := s.callbacks.writeCall_grown (some caller) name params
      (.empty s.settings.maxPayloadSize.toNat)
    rw [heq] at grown
    obtain ⟨within, limit⟩ := grown.within (Nat.zero_le _)
    rw [Cell.Writer.Within, limit] at within
    exact within
  · cases written
  · cases written

variable [Channel κ]

@[simp] theorem traffic_setUp (failed : Fault → Notice) (s : Session κ η) :
    (s.setUp failed).2.traffic = s.traffic := by
  unfold setUp
  split
  · dsimp only
    rw [traffic_record]
    exact List.append_nil _
  · dsimp only
    rw [traffic_note, traffic_record]
    exact List.append_nil _

@[simp] theorem traffic_prepare (s : Session κ η) : s.prepare.2.traffic = s.traffic := by
  unfold prepare
  split
  · rfl
  · exact traffic_setUp _ s

@[simp] theorem traffic_gate (name : String) (s : Session κ η) :
    (s.gate name).2.traffic = s.traffic := by
  have cleared : (s.cleared name).traffic = s.traffic := by
    unfold cleared
    split <;> exact traffic_setHolding false s
  cases allowed : s.isConnected && s.status.allows .call with
  | false => rw [gate_shut allowed]
  | true =>
    rw [gate_cleared allowed]
    split
    · rw [traffic_noteAll]
      exact cleared
    · exact cleared

/-- Exactly one frame was offered to the channel, under the status of `s`. -/
def Offers (f : Frame) (s t : Session κ η) : Prop :=
  ∃ e : Event η, e.offered? = some (f, s.status) ∧ t.traffic = s.traffic ++ [e]

theorem offers_send (opcode : UInt8) (payload : Bytes) (s : Session κ η) :
    Offers ⟨opcode, payload⟩ s (s.send opcode payload) := by
  unfold send
  split
  · refine ⟨.sent ⟨opcode, payload⟩ s.status, rfl, ?_⟩
    rw [traffic_record]
    rfl
  · refine ⟨.unsent ⟨opcode, payload⟩ s.status, rfl, ?_⟩
    rw [traffic_note, traffic_record]
    rfl

theorem Still.gist {s t : Session κ η} (h : Still s t) : t.gist = s.gist :=
  congrArg Memory.gist h.memory

theorem Ended.gist {cause : Cause} {s t : Session κ η} (h : Ended cause s t) :
    t.gist = ⟨.down, (s.status.disconnected cause).intent,
      if cause.clearsTables then .empty else s.natives,
      if cause.clearsTables then .empty else s.callbacks⟩ := by
  have link : (s.status.disconnected cause).link = .down := by cases cause <;> rfl
  rw [Session.gist, Memory.gist, memory, h.status, h.natives, h.callbacks, link]

theorem traffic_disconnect (context : Option String) (expected : Bool) {s : Session κ η}
    (up : s.status.isUp = true) : (s.disconnect context expected).traffic =
      s.traffic ++ [.hungUp (s.status.cause expected) s.memory] := by
  let cause := s.status.cause expected
  let parted := (s.farewell cause context).forget cause
  have partedTraffic : parted.traffic = s.traffic := by
    cases h : cause <;> simp only [parted, h] <;>
      exact (traffic_signal _ _).trans (traffic_note _ s)
  let closed : Session κ η :=
    { parted with channel := Channel.disconnect parted.channel }.record (.hungUp cause s.memory)
  have closedTraffic : closed.traffic = parted.traffic ++ [.hungUp cause s.memory] :=
    traffic_record (.hungUp cause s.memory) _
  rw [disconnect, if_pos up, ← partedTraffic, ← closedTraffic]
  exact traffic_setUp .renewalFailed closed

theorem offers_announce (s : Session κ η) : ∃ payload,
    (Announcement.ofSettings s.settings).encode = .ok payload ∧
      Offers ⟨Opcode.announce, payload⟩ s s.announce := by
  refine ⟨_, Announcement.encode_eq _, ?_⟩
  unfold announce
  dsimp only
  rw [Announcement.encode_eq]
  obtain ⟨e, offered, traffic⟩ :=
    offers_send Opcode.announce _ (s.noteAll (Announcement.notices s.settings))
  refine ⟨e, offered, ?_⟩
  dsimp only
  rw [traffic_note, traffic_note, traffic, traffic_noteAll]

theorem beat_cases (s : Session κ η) :
    s.beat.traffic = s.traffic ∨ Offers ⟨Opcode.tick, []⟩ s s.beat := by
  unfold beat
  dsimp only
  split
  · exact .inl (traffic_noteAll _ _)
  · rename_i detector notices _
    obtain ⟨e, offered, traffic⟩ := offers_send Opcode.tick []
      ({ s with detector := detector.heartbeat (Channel.now s.channel) }.noteAll notices)
    exact .inr ⟨e, offered, by rw [traffic, traffic_noteAll]; rfl⟩

theorem gist_gate (name : String) (s : Session κ η) : (s.gate name).2.gist = s.gist := by
  have cleared : (s.cleared name).gist = s.gist := by
    unfold cleared
    split <;> rfl
  cases allowed : s.isConnected && s.status.allows .call with
  | false => rw [gate_shut allowed]
  | true =>
    rw [gate_cleared allowed]
    split <;> exact cleared

theorem answerInvocation_narrow (caller : UInt16) (request : Bytes) {s : Session κ η}
    (narrow : s.settings.maxPayloadSize.toNat < 2) :
    ∃ e, s.answerInvocation caller request = s.note (.nativeReplyFailed e) := by
  let room := s.settings.maxPayloadSize.toNat
  have refused : (Cell.Writer.empty room).put (.u16 caller) = .error (.payloadTooLarge 2 room) :=
    if_pos narrow
  refine ⟨.payloadTooLarge 2 room, ?_⟩
  rw [answerInvocation, refused]

theorem answerInvocation_wide (caller : UInt16) (request : Bytes) {s : Session κ η}
    (wide : 2 ≤ s.settings.maxPayloadSize.toNat) :
    Offers ⟨Opcode.reply, s.invocationReply caller request⟩ s
      (s.answerInvocation caller request) := by
  let room := s.settings.maxPayloadSize.toNat
  let done := s.natives.invoke request ⟨Bytes.ofU16 caller, room⟩ s.host
  let noted : Session κ η := ({ s with host := done.host }.noteAll
    (done.asked.flatMap refusalNotices)).note (invocationNotice request.length done.result)
  have begun : (Cell.Writer.empty room).put (.u16 caller) = .ok ⟨Bytes.ofU16 caller, room⟩ :=
    if_neg (Nat.not_lt.mpr wide)
  have eq : s.answerInvocation caller request = noted.send Opcode.reply done.writer.bytes := by
    rw [answerInvocation, begun]
  obtain ⟨e, offered, traffic⟩ := offers_send Opcode.reply done.writer.bytes noted
  refine ⟨e, offered, ?_⟩
  rw [eq, traffic, traffic_note, traffic_noteAll]
  rfl

theorem traffic_hear (f : Frame) (c : κ) (s : Session κ η) :
    ({ s with channel := c }.hear f).traffic = s.traffic ++ [.received f] :=
  traffic_record (.received f) _

theorem traffic_make (settings : SessionSettings) (listener : Listener) (channel : κ) (host : η) :
    (make settings listener channel host : Session κ η).traffic = [] :=
  (traffic_setUp .firstSetupFailed _).trans (traffic_signal .starting _)

theorem gist_make (settings : SessionSettings) (listener : Listener) (channel : κ) (host : η) :
    (make settings listener channel host : Session κ η).gist = ⟨.down, .none, .empty, .empty⟩ :=
  (still_setUp .firstSetupFailed _).gist

end Session

end HostLink
