import HostLink.Proofs.Channel.Tape
import HostLink.Proofs.Session.Brings
import HostLink.Proofs.Session.Conversation

/-!
# HostLink.Proofs.Session.Logged

What a journal says of the channel is what happened on it. Of a journal's events some are marks of
the channel: a runtime was let in, a frame was received, sent or not sent, the channel was closed.
What a session does at one time enters the marks that the channel leaves, in their order and no
others (`Logs`), and so does a whole operation, whatever the channel is:

* `operations_logged`    — every operation of the host, from the making of the session on.
* `receipts_scripted`    — over a scripted channel: what was received is what the script says.
* `Chronicle.remembered` — what is entered as remembered at the beginning or the end of a
  connection is what the session remembered at that moment.
-/

namespace HostLink

open Channel (Mark Leaves Tape)

/-- The mark of the channel that an event is. -/
def Event.mark? {η : Type} : Event η → Option Mark
  | .letIn _ => some .letIn
  | .hungUp _ _ => some .closed
  | .received f => some (.gave f)
  | .sent f _ => some (.took f)
  | .unsent f _ => some (.refused f)
  | _ => none

namespace Session

variable {κ η : Type}

/-- What the journal says of the channel. -/
def marks (s : Session κ η) : List Mark := s.journal.filterMap Event.mark?

theorem marks_traffic (s : Session κ η) : s.marks = s.traffic.filterMap Event.mark? := by
  refine (Journal.filterMap_traffic (fun e aside => ?_) s.journal).symm
  cases e <;> first | rfl | cases aside

theorem marks_of_traffic {s t : Session κ η} {es : Journal η}
    (traffic : t.traffic = s.traffic ++ es) : t.marks = s.marks ++ es.filterMap Event.mark? := by
  rw [marks_traffic, marks_traffic, traffic, List.filterMap_append]

variable [Channel κ]

/-- What the journal of `t` says beyond that of `s` is what its channel left in the meantime. -/
def Logs (s t : Session κ η) : Prop :=
  ∃ ms, t.marks = s.marks ++ ms ∧ Tape s.channel ms t.channel

namespace Logs

theorem refl (s : Session κ η) : Logs s s := ⟨[], by simp, .nil _⟩

theorem trans {s t u : Session κ η} (h : Logs s t) (h' : Logs t u) : Logs s u := by
  obtain ⟨ms, marks, tape⟩ := h
  obtain ⟨ns, marks', tape'⟩ := h'
  exact ⟨ms ++ ns, by rw [marks', marks, List.append_assoc], tape.append tape'⟩

/-- What leaves the channel alone enters nothing about it. -/
theorem aside {s t : Session κ η} (channel : t.channel = s.channel)
    (traffic : t.traffic = s.traffic) : Logs s t :=
  ⟨[], by rw [marks_traffic, marks_traffic, traffic, List.append_nil], channel ▸ .nil _⟩

theorem after {s t u : Session κ η} (h : Logs t u) (channel : t.channel = s.channel)
    (traffic : t.traffic = s.traffic) : Logs s u :=
  (aside channel traffic).trans h

theorem leaves {s t : Session κ η} {es : Journal η} {ms : List Mark}
    (traffic : t.traffic = s.traffic ++ es) (entered : es.filterMap Event.mark? = ms)
    (leaves : Leaves s.channel ms t.channel) : Logs s t :=
  ⟨ms, entered ▸ marks_of_traffic traffic, leaves.tape⟩

theorem later {s t : Session κ η} (h : Logs s t) : Channel.Later s.channel t.channel := by
  obtain ⟨ms, -, tape⟩ := h
  exact tape.later

end Logs

/-! ## One operation of the channel -/

theorem logs_setUp (failed : Fault → Notice) (s : Session κ η) : Logs s (s.setUp failed).2 := by
  have traffic : (s.setUp failed).2.traffic = s.traffic ++ [] := by
    rw [traffic_setUp, List.append_nil]
  refine .leaves traffic rfl ?_
  rw [(setUp_view failed s).2]
  exact .setup s.channel

theorem logs_note (n : Notice) (s : Session κ η) : Logs s (s.note n) :=
  .aside rfl (traffic_note n s)

theorem logs_send (opcode : UInt8) (payload : Bytes) (s : Session κ η) :
    Logs s (s.send opcode payload) := by
  unfold send
  split
  · rename_i c sent
    exact .leaves (traffic_record (.sent ⟨opcode, payload⟩ s.status) _) rfl (.took sent)
  · rename_i e c refused
    have entered : Logs s ({ s with channel := c }.record (.unsent ⟨opcode, payload⟩ s.status)) :=
      .leaves (traffic_record _ { s with channel := c }) rfl (.refused refused)
    exact entered.trans (logs_note _ _)

/-- A look without a frame, or a try to connect to which nobody comes. -/
theorem logs_look {s : Session κ η} {c : κ} (leaves : Leaves s.channel [] c) :
    Logs s { s with channel := c } :=
  .leaves (List.append_nil _).symm rfl leaves

theorem logs_hear {s : Session κ η} {f : Frame} {c : κ}
    (came : Channel.receive s.channel = (.frame f, c)) :
    Logs s ({ s with channel := c }.hear f) :=
  .leaves (traffic_hear f c s) rfl (.gave came)

/-! ## What a session does at one time -/

theorem logs_prepare (s : Session κ η) : Logs s s.prepare.2 := by
  unfold prepare
  split
  · exact .refl s
  · exact logs_setUp _ s

theorem logs_announce (s : Session κ η) : Logs s s.announce := by
  let noticed := s.noteAll (Announcement.notices s.settings)
  have noted : Logs s noticed := .aside rfl (traffic_noteAll _ s)
  unfold announce
  dsimp only
  split
  · exact noted.trans (logs_note _ _)
  · exact noted.trans ((logs_send _ _ _).trans ((logs_note _ _).trans (logs_note _ _)))

theorem logs_takeIn {s : Session κ η} {c : κ} (came : Channel.connect s.channel = (.ok true, c)) :
    Logs s (s.takeIn c) := by
  let opened : Session κ η := { s with channel := c }.record (.letIn s.memory)
  have entered : Logs s opened :=
    .leaves (traffic_record (.letIn s.memory) { s with channel := c }) rfl (.letIn came)
  have greeted : Logs opened opened.greet :=
    .aside rfl ((traffic_note _ _).trans (traffic_signal .connected opened))
  exact entered.trans (greeted.trans (logs_announce opened.greet))

theorem logs_disconnect (context : Option String) (expected : Bool) (s : Session κ η) :
    Logs s (s.disconnect context expected) := by
  unfold disconnect
  split
  · let cause := s.status.cause expected
    let parted := (s.farewell cause context).forget cause
    let closed : Session κ η :=
      { parted with channel := Channel.disconnect parted.channel }.record (.hungUp cause s.memory)
    have partedTraffic : parted.traffic = s.traffic := by
      cases h : cause <;> simp only [parted, h] <;>
        exact (traffic_signal _ _).trans (traffic_note _ s)
    have left : Logs s parted := .aside (parted_view cause context s).1 partedTraffic
    have hungUp : Logs parted closed :=
      .leaves (traffic_record (.hungUp cause s.memory) _) rfl (.closed parted.channel)
    have renewed : Logs closed (closed.setUp .renewalFailed).2 := logs_setUp _ closed
    exact left.trans (hungUp.trans (renewed.trans (.aside rfl rfl)))
  · exact .refl s

theorem logs_answerInvocation (caller : UInt16) (request : Bytes) (s : Session κ η) :
    Logs s (s.answerInvocation caller request) := by
  unfold answerInvocation
  split
  · exact logs_note _ s
  · dsimp only
    exact (logs_send _ _ _).after rfl ((traffic_note _ _).trans (traffic_noteAll _ _))

theorem logs_beat (s : Session κ η) : Logs s s.beat := by
  unfold beat
  dsimp only
  split
  · exact .aside rfl (traffic_noteAll _ _)
  · exact (logs_send _ _ _).after rfl (traffic_noteAll _ _)

theorem logs_enterCallback (record : Bytes) (s : Session κ η) :
    Logs s (s.enterCallback record) := by
  refine .aside ?_ (traffic_enterCallback record s)
  unfold enterCallback
  split <;> rfl

theorem logs_asking (payload : Bytes) (s : Session κ η) : Logs s (s.asking payload) := by
  have delivered : s.delivered.traffic = s.traffic :=
    (traffic_note _ s.begun).trans (traffic_note _ s)
  exact (logs_send _ _ _).after rfl delivered

theorem logs_resumed (reply : Option Bytes) (s : Session κ η) : Logs s (s.resumed reply) :=
  .aside (channel_noteSilence _ _ _) (traffic_noteSilence _ _ _)

variable [Host η]

omit [Channel κ] in
theorem channel_consulted (name : String) (s : Session κ η) :
    (s.consulted name).channel = s.channel := by
  unfold consulted
  dsimp only
  cases (s.natives.resolve name s.host).answer <;> rfl

/-- What the host is asked is no matter of the channel. -/
theorem logs_consulted (name : String) (s : Session κ η) : Logs s (s.consulted name) := by
  refine ⟨[], ?_, channel_consulted name s ▸ .nil _⟩
  rw [marks_of_traffic (traffic_consulted name s)]
  cases (s.natives.resolve name s.host).answer <;> rfl

theorem logs_answerLookup (caller : UInt16) (name : String) (s : Session κ η) :
    Logs s (s.answerLookup caller name) := by
  rcases answerLookup_cases caller name s with ⟨e, -, eq⟩ | ⟨payload, -, eq⟩
  · rw [eq]
    exact (logs_consulted name s).trans (logs_note _ _)
  · rw [eq]
    exact (logs_consulted name s).trans (logs_send _ _ _)

omit [Channel κ] in
theorem channel_restart (s : Session κ η) : s.restart.channel = s.channel := by
  unfold restart
  split <;> rfl

theorem Served.logs {f : Frame} {s t : Session κ η} {step : Step} (h : Served f s step t) :
    Logs s t := by
  have begun : Logs s s.begun := .aside rfl (traffic_note .remoteStarted s)
  have delivered : Logs s s.delivered := begun.trans (.aside rfl (traffic_note .startsFaking _))
  cases h with
  | malformed => exact logs_note _ s
  | answer => exact .refl s
  | ping => exact logs_send _ _ s
  | print => exact logs_note _ s
  | alive => exact .refl s
  | registerCall => exact logs_enterCallback _ s
  | findNative => exact logs_answerLookup _ _ s
  | invokeNative => exact logs_answerInvocation _ _ s
  | reconnect => exact (logs_disconnect _ _ s.expecting).after rfl (traffic_note _ s)
  | disconnect => exact .aside rfl (traffic_note _ s)
  | waits => exact begun.trans (logs_note _ _)
  | restarts =>
    let noted := s.begun.note .startsRestarting
    have restarted : Logs noted noted.restart := .aside (channel_restart _) (traffic_restart _)
    exact begun.trans ((logs_note _ _).trans restarted)
  | unknown => exact begun.trans (logs_note _ _)
  | early => exact begun.trans (logs_note _ _)
  | nested => exact begun.trans ((logs_note _ _).trans (logs_note _ _))
  | unwritable => exact delivered.trans (logs_note _ _)
  | unregistered => exact delivered

theorem conduct_logs : Conduct (Logs : Session κ η → Session κ η → Prop) where
  refl := .refl
  trans := .trans
  prepared {s} _ := logs_prepare s
  alone nobody := logs_look (.alone nobody (by simp))
  failed failed := (logs_look (.alone failed (by simp))).trans (logs_note _ _)
  entered _ came := logs_takeIn came
  ended {s context expected} _ := logs_disconnect context expected s
  idle _ looked bare := logs_look (.bare looked bare)
  served _ came served := (logs_hear came).trans served.logs
  asked _ came _ waited reply :=
    (logs_hear came).trans ((logs_asking _ _).trans (waited.trans (logs_resumed reply _)))
  strayed _ _ := logs_note _ _
  beaten {s} _ _ := (logs_beat (s.setHolding false)).after rfl (traffic_setHolding false s)
  observed name s := .aside (channel_observe name s) (traffic_observe name s)
  gated name s := .aside (channel_gate name s) (traffic_gate name s)
  unforwarded _ _ _ := logs_note _ _
  called _ _ := logs_send _ _ _
  silent name reply s :=
    .aside (channel_noteSilence name reply s) (traffic_noteSilence name reply s)

/-- Whatever the host does with a session, its journal says what its channel left meanwhile. -/
theorem operations_logged {patience : Nat} {act : Act} {s t : Session κ η}
    (h : s.perform patience act = some t) :
    ∃ ms, t.marks = s.marks ++ ms ∧ Tape s.channel ms t.channel :=
  conduct_logs.perform logs_takeIn h

omit [Host η] in
/-- A new session has asked its channel to make itself ready, which leaves no mark. -/
theorem logs_make (settings : SessionSettings) (listener : Listener) (channel : κ) (host : η) :
    (make settings listener channel host).marks = [] ∧
      Tape channel [] (make settings listener channel host).channel := by
  refine ⟨by rw [marks_traffic, traffic_make]; rfl, ?_⟩
  have made : (make settings listener channel host).channel = (Channel.setup channel).2 :=
    (setUp_view .firstSetupFailed _).2
  rw [made]
  exact (Leaves.setup channel).tape

omit [Channel κ] [Host η] in
theorem received_marks (s : Session κ η) : s.journal.received = s.marks.filterMap Mark.gave? := by
  rw [marks, List.filterMap_filterMap]
  refine List.filterMap_congr fun e _ => ?_
  cases e <;> rfl

/-- Over a scripted channel, what a session received was said by the script, in its order, and the
channel was closed as often as the journal says. -/
theorem receipts_scripted {patience : Nat} {act : Act} {s t : Session Scripted.Wire η}
    (h : s.perform patience act = some t) :
    (∃ fs, t.journal.received = s.journal.received ++ fs ∧
      (fs ++ t.channel.script).Sublist s.channel.script) ∧
    t.channel.disconnects + s.marks.count .closed =
      s.channel.disconnects + t.marks.count .closed := by
  obtain ⟨ms, marks, tape⟩ := operations_logged h
  refine ⟨⟨ms.filterMap Mark.gave?, ?_, Scripted.Wire.tape_script tape⟩, ?_⟩
  · rw [received_marks, received_marks, marks, List.filterMap_append]
  · rw [Scripted.Wire.tape_disconnects tape, marks, List.count_append]
    omega

/-! ## What is entered as remembered -/

end Session

/-- What was remembered at the beginning or the end of a connection. -/
def Event.kept? {η : Type} : Event η → Option (Memory η)
  | .letIn kept => some kept
  | .hungUp _ kept => some kept
  | _ => none

theorem Event.kept_of_offered {η : Type} {e : Event η} {f : Frame} {status : Status}
    (h : e.offered? = some (f, status)) : e.kept? = none := by
  rcases Event.eq_of_offered h with rfl | rfl <;> rfl

namespace Session

variable {κ η : Type} [Channel κ] [Host η]

/-- An event that tells what was remembered was entered at one of the moments, with what the session
remembered then. An end that the runtime asks for by a reconnect is entered when the session has
taken the frame in and expects the runtime to come back. -/
def Remembers (moments : List (Session κ η)) (seen : Journal η) (e : Event η) (_ : Journal η) :
    Prop :=
  ∀ kept, e.kept? = some kept → ∃ u ∈ moments,
    (seen = u.traffic ∧ kept = u.memory) ∨
      ∃ f, f.command? = some .reconnect ∧ seen = u.traffic ++ [.received f] ∧
        kept = u.expecting.memory

omit [Channel κ] [Host η] in
theorem remembers_unkept {moments : List (Session κ η)} {es : Journal η}
    (unkept : ∀ e ∈ es, e.kept? = none) (seen : Journal η) : es.Each (Remembers moments) seen := by
  refine Journal.each_of_forall (fun e mem _ _ kept told => ?_) seen
  rw [unkept e mem] at told
  cases told

theorem Brings.remembers {s t : Session κ η} {es : Journal η} (brings : Brings s t es) :
    es.Each (Remembers [s]) s.traffic := by
  have told {e : Event η} {kept : Memory η} (tells : e.kept? = some kept)
      (same : kept = s.memory) (after : Journal η) : Remembers [s] s.traffic e after := by
    intro kept' told
    rw [tells] at told
    cases told
    exact ⟨s, by simp, .inl ⟨rfl, same⟩⟩
  have offered {e : Event η} {f : Frame} {status : Status} (offers : e.offered? = some (f, status))
      (seen : Journal η) : Journal.Each (Remembers [s]) [e] seen := by
    refine remembers_unkept (fun e' mem => ?_) seen
    rw [List.mem_singleton.mp mem]
    exact Event.kept_of_offered offers
  cases brings with
  | nothing => trivial
  | beaten _ _ offers => exact offered offers _
  | called _ _ _ _ offers => exact offered offers _
  | entered _ _ offers => exact ⟨told rfl rfl _, offered offers _⟩
  | ended => exact ⟨told rfl rfl _, trivial⟩
  | @heard c f es hears =>
    have heard : Remembers [s] s.traffic (.received f) es := by
      intro kept told
      cases told
    refine ⟨heard, ?_⟩
    cases hears with
    | @lookedUp caller name e _ _ offers =>
      refine remembers_unkept (fun e' mem => ?_) _
      rcases List.mem_append.mp mem with asked | answered
      · obtain ⟨answer, -, rfl⟩ := List.mem_map.mp asked
        rfl
      · rw [List.mem_singleton.mp answered]
        exact Event.kept_of_offered offers
    | invoked _ _ _ offers => exact offered offers _
    | ponged _ _ offers => exact offered offers _
    | called _ _ _ _ _ offers => exact offered offers _
    | returned decoded up gist =>
      refine ⟨fun kept told => ?_, trivial⟩
      cases told
      exact ⟨s, by simp, .inr ⟨f, decoded, rfl, rfl⟩⟩
    | _ => trivial

/-- Whatever a journal says was remembered when a connection began or ended was remembered then. -/
theorem Chronicle.remembered {moments : List (Session κ η)} {s : Session κ η}
    (life : Chronicle moments s) : s.traffic.Each (Remembers moments) [] := by
  induction life with
  | made settings listener channel host =>
    rw [traffic_make]
    trivial
  | @next moments s t before stride ih =>
    obtain ⟨es, traffic, brings⟩ := stride.brings
    have weaken {among : List (Session κ η)} (sub : among ⊆ moments ++ [s]) (seen : Journal η)
        (e : Event η) (after : Journal η) (h : Remembers among seen e after) :
        Remembers (moments ++ [s]) seen e after := by
      intro kept told
      obtain ⟨u, mem, then_⟩ := h kept told
      exact ⟨u, sub mem, then_⟩
    have earlier := ih.imp (weaken (List.subset_append_left _ _))
    have now := brings.remembers.imp (weaken (List.subset_append_right _ _))
    rw [traffic]
    exact earlier.append now fun _ _ _ _ h => h

end Session

end HostLink
