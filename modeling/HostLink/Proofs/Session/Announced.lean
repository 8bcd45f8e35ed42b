import HostLink.Proofs.Announcement
import HostLink.Proofs.Pipe.Run
import HostLink.Proofs.Session.Hushed
import HostLink.Proofs.Session.Permission
import HostLink.Proofs.Session.Trace

/-!
# HostLink.Proofs.Session.Announced

Whoever is let in is told who the host is, before anything else and once. The announcement is the
first thing that is handed to the channel for a newcomer. It may be refused; but a channel that
closes then and takes nothing while it is closed (`FaithfulChannel`) carries nothing else to this
newcomer. So what is said to a newcomer (`Journal.said`) begins with the announcement, or nothing is
said to it. Over a channel that closes but goes on to take frames something else may come first
(`exists_unannounced`).

* `Announced` — the invariant: whoever is connected has been told something, and all that was handed
  to the channel went there as it should (`Journal.Mannerly`).
* `announced_once` — where announcements stand among the frames that were sent.
-/

namespace HostLink

namespace Journal

variable {η : Type}

/-- The frames that were sent since somebody was let in. -/
def saidBy (said : List Frame) : Event η → List Frame
  | .letIn _ => []
  | .sent f _ => said ++ [f]
  | _ => said

def said (j : Journal η) : List Frame := j.foldl saidBy []

theorem said_append (j es : Journal η) : (j ++ es).said = es.foldl saidBy j.said :=
  List.foldl_append

theorem said_traffic (j : Journal η) : said (j.filter Event.isTraffic) = j.said := by
  refine foldl_traffic _ (fun a e aside => ?_) j
  cases e <;> first | rfl | cases aside

theorem said_lonely {es : Journal η} (lonely : es.Lonely) (j : Journal η) :
    (j ++ es).said = j.said ++ es.sent := by
  rw [said_append]
  generalize j.said = said
  induction es generalizing said with
  | nil => simp [sent]
  | cons e es ih =>
    obtain ⟨first, rest⟩ := lonely_cons.mp lonely
    rw [List.foldl_cons, ih rest]
    cases e with
    | letIn kept => exact absurd rfl (first kept)
    | sent f status => simp [saidBy, sent, Event.sent?]
    | _ => rfl

theorem split_of_sent {j : Journal η} {k : Nat} {opcode : UInt8}
    (h : (j[k]?.any fun e => e.sent?.any fun f => decide (f.opcode = opcode)) = true) :
    ∃ (f : Frame) (status : Status),
      j = j.take k ++ .sent f status :: j.drop (k + 1) ∧ f.opcode = opcode := by
  obtain ⟨e, found, sent⟩ := (Option.any_eq_true ..).mp h
  obtain ⟨f, same, named⟩ := (Option.any_eq_true ..).mp sent
  have split := split_of_getElem? found
  cases e with
  | sent _ status =>
    cases same
    exact ⟨f, status, split, of_decide_eq_true named⟩
  | _ => cases same

/-- Whoever is let in has the announcement of these settings handed over first; frames are handed
over only while somebody is there; and a frame that is sent is this announcement exactly if it is
the first one. -/
structure Mannerly (settings : SessionSettings) (before : Journal η) (e : Event η)
    (after : Journal η) : Prop where
  letIn : ∀ kept, e = .letIn kept → ∃ g payload status, after.head? = some g ∧
    g.offered? = some (⟨Opcode.announce, payload⟩, status) ∧
      (Announcement.ofSettings settings).encode = .ok payload
  offered : ∀ f status, e.offered? = some (f, status) → before.linked = true
  sent : ∀ f status, e = .sent f status →
    (f.opcode = Opcode.announce ↔ before.said = []) ∧
      (f.opcode = Opcode.announce → (Announcement.ofSettings settings).encode = .ok f.payload)

theorem Mannerly.more {settings : SessionSettings} {before after : Journal η} {e : Event η}
    (h : Mannerly settings before e after) (rest : Journal η) :
    Mannerly settings before e (after ++ rest) := by
  refine ⟨fun kept here => ?_, h.offered, h.sent⟩
  obtain ⟨g, payload, status, head, offers, written⟩ := h.letIn kept here
  exact ⟨g, payload, status, by simp [head], offers, written⟩

/-- Events by which nobody is let in and nothing is announced. If a frame is handed over among them,
somebody is there all the time. -/
inductive Civil (up : Bool) (es : Journal η) : Prop where
  | mute (lonely : es.Lonely) (mute : ∀ e ∈ es, e.offered? = none)
  | frank (up : up = true) (neutral : ∀ e ∈ es, ∀ u, linkedBy u e = u)
      (plain : ∀ e ∈ es, ∀ f status, e.offered? = some (f, status) → f.opcode ≠ Opcode.announce)

theorem lonely_of_neutral {es : Journal η} (neutral : ∀ e ∈ es, ∀ u, linkedBy u e = u) :
    es.Lonely := by
  intro kept mem
  have := neutral _ mem false
  cases this

theorem Civil.lonely {up : Bool} {es : Journal η} (civil : Civil up es) : es.Lonely := by
  cases civil with
  | mute lonely => exact lonely
  | frank _ neutral => exact lonely_of_neutral neutral

theorem civil_offered {front : Journal η} {e : Event η} {opcode : UInt8} {payload : Bytes}
    {status : Status} (mute : ∀ e ∈ front, e.offered? = none ∧ ∀ u, linkedBy u e = u)
    (offers : e.offered? = some (⟨opcode, payload⟩, status)) (other : opcode ≠ Opcode.announce) :
    Civil true (front ++ [e]) := by
  refine .frank rfl ?_ ?_
  · intro e' mem
    rcases List.mem_append.mp mem with mem | mem
    · exact (mute e' mem).2
    · obtain rfl := List.mem_singleton.mp mem
      exact (neutral_offered offers).link
  · intro e' mem f status' offered
    rcases List.mem_append.mp mem with mem | mem
    · rw [(mute e' mem).1] at offered
      cases offered
    · obtain rfl := List.mem_singleton.mp mem
      rw [offers] at offered
      cases offered
      exact other

theorem Civil.each {es seen : Journal η} (settings : SessionSettings)
    (civil : Civil seen.linked es) (greeted : es.sent ≠ [] → seen.said ≠ []) :
    es.Each (Mannerly settings) seen := by
  cases civil with
  | mute lonely mute =>
    refine each_of_forall (fun e mem before after => ⟨?_, ?_, ?_⟩) seen
    · rintro kept rfl
      exact absurd mem (lonely kept)
    · intro f status offered
      rw [mute e mem] at offered
      cases offered
    · rintro f status rfl
      cases mute _ mem
  | frank up neutral plain =>
    induction es generalizing seen with
    | nil => trivial
    | cons e es ih =>
      obtain ⟨first, rest⟩ := List.forall_mem_cons.mp neutral
      obtain ⟨other, others⟩ := List.forall_mem_cons.mp plain
      have linked : (seen ++ [e]).linked = true := by
        rw [linked_append, List.foldl_cons, List.foldl_nil, first, up]
      refine ⟨⟨?_, fun _ _ _ => up, ?_⟩, ih ?_ linked rest others⟩
      · rintro kept rfl
        cases first false
      · rintro f status rfl
        have plain : f.opcode ≠ Opcode.announce := other f status rfl
        have told : seen.said ≠ [] := greeted (by simp [Journal.sent, Event.sent?])
        exact ⟨iff_of_false plain told, fun announces => absurd announces plain⟩
      · intro more
        rw [said_lonely (lonely_of_neutral (by simpa using first))]
        intro nothing
        obtain ⟨nothing, -⟩ := List.append_eq_nil_iff.mp nothing
        refine greeted ?_ nothing
        rw [← List.singleton_append, sent_append]
        simp [more]

end Journal

/-- The versions can be read off an announcement. -/
theorem Announcement.decode_of_encode {a : Announcement} {payload : Bytes}
    (written : a.encode = .ok payload) :
    ∃ dir, decode payload = .ok ⟨a.protocolVersion, a.buildVersion, dir⟩ := by
  rw [encode_eq] at written
  cases written
  exact ⟨Utf8.lossy a.sentDir, decode_versions a.protocolVersion a.buildVersion a.sentDir⟩

namespace Session

variable {κ η : Type}

variable [Channel κ] [Host η]

/-! ## What is said to a newcomer -/

omit [Channel κ] in
theorem Hears.civil {f : Frame} {s t : Session κ η} {es : Journal η} (hears : Hears f s t es) :
    Journal.Civil true (.received f :: es) := by
  have heard : (Event.received f : Event η).offered? = none ∧
      ∀ u, Journal.linkedBy u (Event.received f : Event η) = u := ⟨rfl, fun _ => rfl⟩
  have silent : Journal.Civil true [(.received f : Event η)] :=
    .frank rfl (by simpa using heard.2) (by simp [heard.1])
  have answered {e : Event η} {opcode : UInt8} {payload : Bytes} {status : Status}
      (offers : e.offered? = some (⟨opcode, payload⟩, status)) (other : opcode ≠ Opcode.announce) :
      Journal.Civil true ([.received f] ++ [e]) :=
    Journal.civil_offered (by simpa using heard) offers other
  cases hears with
  | ignored => exact silent
  | ponged _ _ offers => exact answered offers (by decide)
  | registered => exact silent
  | @lookedUp caller name e _ _ offers =>
    refine Journal.civil_offered (List.forall_mem_cons.mpr ⟨heard, fun e mem => ?_⟩) offers
      (by decide)
    obtain ⟨answer, -, rfl⟩ := List.mem_map.mp mem
    exact ⟨rfl, fun _ => rfl⟩
  | cramped => exact silent
  | invoked _ _ _ offers => exact answered offers (by decide)
  | leaving => exact silent
  | returning => exact silent
  | returned => exact .mute (by simp) (by simp [Event.offered?])
  | called _ _ _ _ _ offers => exact answered offers (by decide)

omit [Host η] in
/-- Whoever is let in has the announcement handed over, and has got it if the channel is still
connected then. -/
theorem traffic_takeIn [FaithfulChannel κ] (c : κ) (s : Session κ η) : ∃ payload e,
    (Announcement.ofSettings s.settings).encode = .ok payload ∧
      e.offered? = some (⟨Opcode.announce, payload⟩, (s.takeIn c).status) ∧
      (s.takeIn c).traffic = s.traffic ++ [.letIn s.memory, e] ∧
      (Channel.isConnected (s.takeIn c).channel = true →
        e = .sent ⟨Opcode.announce, payload⟩ (s.takeIn c).status) := by
  let opened : Session κ η := { s with channel := c }.record (.letIn s.memory)
  have openedTraffic : opened.traffic = s.traffic ++ [.letIn s.memory] :=
    traffic_record (.letIn s.memory) _
  let greeted := opened.greet.noteAll (Announcement.notices s.settings)
  have quiet : greeted.traffic = opened.traffic :=
    (traffic_noteAll _ _).trans ((traffic_note _ _).trans (traffic_signal .connected opened))
  have status : (s.takeIn c).status = greeted.status := by
    rw [(entered_takeIn c s).status]
    rfl
  have written := Announcement.encode_eq (Announcement.ofSettings s.settings)
  generalize Bytes.ofU32 _ ++ _ = payload at written
  have eq : s.takeIn c = ((greeted.send Opcode.announce payload).note .announced).note
      (.greeting (Announcement.ofSettings s.settings).workingDir) := by
    change opened.greet.announce = _
    unfold announce
    dsimp only
    rw [show opened.greet.settings = s.settings from rfl, written]
  have traffic : (s.takeIn c).traffic = (greeted.send Opcode.announce payload).traffic := by
    rw [eq, traffic_note, traffic_note]
  have channel : (s.takeIn c).channel = (greeted.send Opcode.announce payload).channel := by
    rw [eq]
    rfl
  rw [status, traffic, channel]
  rcases send_cases Opcode.announce payload greeted with ⟨-, sent⟩ | ⟨closed, refused⟩
  · refine ⟨payload, _, written, rfl, ?_, fun _ => rfl⟩
    rw [sent, quiet, openedTraffic, List.append_assoc]
    rfl
  · refine ⟨payload, .unsent ⟨Opcode.announce, payload⟩ greeted.status, written, rfl, ?_,
      fun connected => ?_⟩
    · rw [refused, quiet, openedTraffic, List.append_assoc]
      rfl
    · rw [closed] at connected
      cases connected

/-- Whoever is connected has been told something, and all was handed over as it should be. -/
structure Announced (s : Session κ η) : Prop where
  occurs : s.Occurs
  sound : s.Sound
  told : Channel.isConnected s.channel = true → s.traffic.said ≠ []
  mannerly : s.traffic.Each (Journal.Mannerly s.settings) []

theorem course_settings {s t : Session κ η} (course : Course s t) : t.settings = s.settings := by
  induction course with
  | refl => rfl
  | tail _ stride ih => exact stride.settings.trans ih

namespace Announced

variable {s t : Session κ η}

theorem civil (h : Announced s) (course : Course s t) (es : Journal η)
    (traffic : t.traffic = s.traffic ++ es) (civil : es.Civil s.status.isUp) (hushed : Hushed s t)
    (peer : Channel.isConnected t.channel = true → Channel.isConnected s.channel = true)
    (sound : t.Sound) : Announced t where
  occurs := h.occurs.course course
  sound := sound
  told connected := by
    rw [traffic, Journal.said_lonely civil.lonely]
    intro nothing
    exact h.told (peer connected) (List.append_eq_nil_iff.mp nothing).1
  mannerly := by
    have said : es.sent ≠ [] → s.traffic.said ≠ [] := by
      intro spoken
      cases connected : Channel.isConnected s.channel with
      | true => exact h.told connected
      | false => exact absurd (hushed.rest traffic connected) spoken
    rw [← h.occurs.tells.link] at civil
    rw [traffic, course_settings course]
    exact h.mannerly.append (civil.each s.settings said) fun _ _ _ rest mannerly =>
      mannerly.more rest

theorem calm [LawfulChannel κ] (h : Announced s) (course : Course s t)
    (traffic : t.traffic = s.traffic) (calm : Calm s t) : Announced t := by
  have peer := calm.peer inferInstance
  refine h.civil course [] (by rw [traffic, List.append_nil]) (.mute (by simp) (by simp))
    (hushed_traffic traffic) peer fun connected => ?_
  rw [calm.isUp]
  exact h.sound (peer connected)

/-- A frame is handed over while the link is up. -/
theorem offers [LawfulChannel κ] (h : Announced s) (course : Course s t) (up : s.status.isUp = true)
    (still : Still s t) (hushed : Hushed s t) {f : Frame} (offers : Offers f s t)
    (other : f.opcode ≠ Opcode.announce) : Announced t := by
  obtain ⟨e, offered, traffic⟩ := offers
  have civil : Journal.Civil true ([] ++ [e]) := Journal.civil_offered (by simp) offered other
  refine h.civil course [e] traffic (up ▸ civil) hushed (still.peer inferInstance) fun _ => ?_
  rw [still.status]
  exact up

theorem entered [FaithfulChannel κ] (h : Announced s) {c : κ}
    (came : Channel.connect s.channel = (.ok true, c)) : Announced (s.takeIn c) := by
  obtain ⟨payload, e, written, offers, traffic, sent⟩ := traffic_takeIn c s
  have course : Course s (s.takeIn c) := .single (.entered came)
  refine ⟨h.occurs.course course, fun _ => (entered_takeIn c s).isUp, fun connected => ?_, ?_⟩
  · rw [traffic, sent connected, Journal.said_append]
    simp [Journal.saidBy]
  · rw [traffic, course_settings course]
    refine h.mannerly.append ⟨⟨?_, by simp [Event.offered?], by simp⟩, ⟨?_, ?_, ?_⟩, trivial⟩
      fun _ _ _ rest mannerly => mannerly.more rest
    · intro _ _
      exact ⟨e, payload, _, rfl, offers, written⟩
    · rintro kept rfl
      cases offers
    · intro _ _ _
      rw [Journal.linked_append]
      rfl
    · rintro f status rfl
      cases offers
      have said : Journal.said ([] ++ s.traffic ++ [.letIn s.memory]) = [] := by
        rw [Journal.said_append]
        rfl
      exact ⟨iff_of_true rfl said, fun _ => written⟩

theorem ended [LawfulChannel κ] (h : Announced s) (up : s.status.isUp = true)
    (context : Option String) (expected : Bool) : Announced (s.disconnect context expected) := by
  have parted := ended_disconnect context expected up
  refine h.civil (.single (.ended context expected)) _ (traffic_disconnect context expected up)
    (.mute (by simp) (by simp [Event.offered?]))
    (fun _ => sent_traffic_disconnect context expected s) (fun connected => ?_) parted.sound
  rw [parted.closed inferInstance] at connected
  cases connected

/-- A frame comes in and is served, or the init callback goes out for it. -/
theorem heard [LawfulChannel κ] (h : Announced s) (course : Course s t) {c : κ} {f : Frame}
    {es : Journal η} (tuned : s.Tuned) (came : Channel.receive s.channel = (.frame f, c))
    (traffic : t.traffic = ({ s with channel := c }.hear f).traffic ++ es)
    (hears : Hears f ({ s with channel := c }.hear f) t es)
    (hushed : Hushed ({ s with channel := c }.hear f) t)
    (after : Calm ({ s with channel := c }.hear f) t ∨
      Channel.isConnected t.channel = false) : Announced t := by
  have up : s.status.isUp = true := h.sound.tuned tuned
  have looked : Channel.isConnected c = true → Channel.isConnected s.channel = true :=
    (still_receive came).peer inferInstance
  rw [traffic_hear, List.append_assoc] at traffic
  refine h.civil course (.received f :: es) traffic (up ▸ hears.civil) (fun lost => ?_) ?_ ?_
  · have quiet : Channel.isConnected c = false := by
      cases held : Channel.isConnected c with
      | false => rfl
      | true => exact (looked held).symm.trans lost
    rw [hushed quiet, traffic_hear, Journal.sent_append]
    simp [Journal.sent, Event.sent?]
  · intro connected
    rcases after with calm | closed
    · exact looked (calm.peer inferInstance connected)
    · rw [closed] at connected
      cases connected
  · intro connected
    rcases after with calm | closed
    · rw [calm.isUp]
      exact up
    · rw [closed] at connected
      cases connected

end Announced

theorem conduct_announced [FaithfulChannel κ] :
    Conduct fun s t : Session κ η => Announced s → Announced t where
  refl _ h := h
  trans first second h := second (first h)
  prepared {s} lost h :=
    h.calm (conduct_course.prepared lost) (traffic_prepare s) (still_prepare s).calm
  alone nobody h := h.calm (conduct_course.alone nobody) rfl (still_refused nobody (by simp)).calm
  failed {s c e} failed h :=
    h.calm (conduct_course.failed failed) (traffic_note _ _)
      ((still_refused failed (by simp)).trans (still_note _ _)).calm
  entered _ came h := h.entered came
  ended up h := h.ended up _ _
  idle tuned came bare h :=
    h.calm (conduct_course.idle tuned came bare) rfl (still_receive came).calm
  served {s t c f step} tuned came served h := by
    obtain ⟨es, traffic, hears⟩ := served.hears
    refine h.heard (.single (.served came served)) tuned came traffic hears served.hushed ?_
    rcases served.calm with calm | ⟨-, -, ended⟩
    · exact .inl calm
    · exact .inr (ended.closed inferInstance)
  asked {s u c f payload} tuned came asks waited reply h := by
    let heard : Session κ η := { s with channel := c }.hear f
    obtain ⟨es, traffic, hears⟩ := hears_asking asks
    let raised : Session κ η := { heard.delivered with delivering := true }
    have delivered : raised.traffic = heard.traffic :=
      (traffic_note _ heard.begun).trans (traffic_note _ heard)
    have hushed : Hushed heard (raised.send Opcode.publicCall payload) :=
      hushed_send (congrArg Journal.sent delivered) rfl _ _
    have asked : Announced (heard.asking payload) :=
      h.heard (.single (.asked came asks)) tuned came traffic hears hushed
        (.inl (calm_asking payload heard))
    exact (waited asked).calm (.single (.resumed reply)) (traffic_noteSilence _ _ _)
      (still_resumed reply u).calm
  strayed size s h :=
    h.calm (conduct_course.strayed size s) (traffic_note _ s) (still_note _ s).calm
  beaten {s} connected allowed h := by
    let held := s.setHolding false
    have course : Course s held.beat := conduct_course.beaten connected allowed
    have still : Still s held.beat := (still_setHolding false s).trans (still_beat held)
    have up : s.status.isUp = true := (Bool.and_eq_true_iff.mp connected).1
    have heldTraffic : held.traffic = s.traffic := traffic_setHolding false s
    rcases beat_cases held with traffic | ⟨e, offered, traffic⟩
    · exact h.calm course (traffic.trans heldTraffic) still.calm
    · exact h.offers course up still (hushed_beat s) ⟨e, offered, heldTraffic ▸ traffic⟩ (by decide)
  observed name s h := h.calm (conduct_course.observed name s) (traffic_observe name s)
    (calm_observe name s)
  gated name s h := h.calm (conduct_course.gated name s) (traffic_gate name s) (calm_gate name s).1
  unforwarded name e s h :=
    h.calm (conduct_course.unforwarded name e s) (traffic_note _ s) (still_note _ s).calm
  called {r s caller name params payload} opened written h := by
    obtain ⟨connected, -, -⟩ := gate_open opened
    have up : s.status.isUp = true := (Bool.and_eq_true_iff.mp connected).1
    have other : Opcode.publicCall ≠ Opcode.announce := by decide
    exact h.offers (conduct_course.called opened written) up (still_send _ _ s)
      (hushed_send rfl rfl _ _) (offers_send Opcode.publicCall payload s) other
  silent name reply s h := h.calm (conduct_course.silent name reply s)
    (traffic_noteSilence name reply s) (still_noteSilence name reply s).calm

theorem Run.announced [FaithfulChannel κ] {deeds : List (Deed κ η)} {s : Session κ η}
    (run : Run deeds s) : Announced s := by
  induction run with
  | made settings listener host closed =>
    have made : Run [] (make settings listener _ host : Session κ η) :=
      .made settings listener host closed
    have lost := (fresh_make settings listener host closed).closed inferInstance
    refine ⟨made.occurs, made.sound, fun connected => ?_, ?_⟩
    · rw [lost] at connected
      cases connected
    · rw [traffic_make]
      trivial
  | did run patience act h ih =>
    exact conduct_announced.perform (fun came before => before.entered came) h ih
  | @passed deeds s run c host peer ih =>
    exact ih.calm (.single (.passed c host)) rfl
      ⟨rfl, fun _ => .inl rfl, rfl, .of_eq rfl, fun _ => peer⟩

/-- Whoever is let in has the announcement handed over before anything else happens between the
session and it. No frame is handed over but to somebody who was let in and has not been parted
from. And of the frames that were sent to somebody exactly the first is an announcement; it tells
the versions that the settings ask for. -/
theorem announced_once [FaithfulChannel κ] {s : Session κ η} (reached : Reachable s) :
    (∀ (before after : Journal η) (kept : Memory η), s.journal = before ++ .letIn kept :: after →
      ∃ e payload status, (after.filter Event.isTraffic).head? = some e ∧
        e.offered? = some (⟨Opcode.announce, payload⟩, status) ∧
        (Announcement.ofSettings s.settings).encode = .ok payload) ∧
    (∀ (before after : Journal η) (e : Event η) (f : Frame) (status : Status),
      s.journal = before ++ e :: after → e.offered? = some (f, status) → before.linked = true) ∧
    ∀ (before after : Journal η) (f : Frame) (status : Status),
      s.journal = before ++ .sent f status :: after →
      (f.opcode = Opcode.announce ↔ before.said = []) ∧
        (f.opcode = Opcode.announce → ∃ dir, Announcement.decode f.payload =
          .ok ⟨s.settings.protocolVersion, s.settings.buildVersion, dir⟩) := by
  obtain ⟨deeds, run⟩ := reached
  have mannerly {before after : Journal η} {e : Event η} (split : s.journal = before ++ e :: after)
      (about : e.isTraffic = true) : Journal.Mannerly s.settings
        (before.filter Event.isTraffic) e (after.filter Event.isTraffic) := by
    have traffic : s.traffic =
        before.filter Event.isTraffic ++ e :: after.filter Event.isTraffic := by
      simp [Session.traffic, split, about]
    have each := run.announced.mannerly
    rw [traffic] at each
    exact each.at
  refine ⟨?_, ?_, ?_⟩
  · intro before after kept split
    exact (mannerly split rfl).letIn kept rfl
  · intro before after e f status split offers
    have linked := (mannerly split (Event.traffic_of_offered offers)).offered f status offers
    rwa [Journal.linked_traffic] at linked
  · intro before after f status split
    obtain ⟨first, written⟩ := (mannerly split rfl).sent f status rfl
    rw [Journal.said_traffic] at first
    exact ⟨first, fun announces => Announcement.decode_of_encode (written announces)⟩

/-- A session over a pipe to whose listener somebody has come who sends a ping. -/
def doorstep : Session (Pipe Pipe.Local) Scripted.Catalog :=
  let s := make {} .full (Pipe.make 64 (Pipe.Local.initial true))
    ({ natives := [] } : Scripted.Catalog)
  { s with
    channel := { s.channel with sockets := s.channel.sockets.visit [1, 0, 0, 0, 0] } }

theorem reachable_doorstep : Reachable doorstep := by
  have made : Run [] (make {} .full (Pipe.make 64 (Pipe.Local.initial true))
      ({ natives := [] } : Scripted.Catalog)) := .made {} .full _ rfl
  exact ⟨[], made.passed _ fun connected => connected⟩

/-- It is let in, gets the announcement, and then the answer to its ping. -/
theorem announced_once_doorstep : ∃ s : Session (Pipe Pipe.Local) Scripted.Catalog, Reachable s ∧
    (∃ (before after : Journal Scripted.Catalog) (f : Frame) (status : Status),
      s.journal = before ++ .sent f status :: after ∧ f.opcode = Opcode.announce ∧
      before.said = [] ∧ ∃ dir, Announcement.decode f.payload = .ok ⟨1, 768, dir⟩) ∧
    ∃ (before after : Journal Scripted.Catalog) (f : Frame) (status : Status),
      s.journal = before ++ .sent f status :: after ∧ f.opcode = Opcode.pong ∧
      before.linked = true ∧ before.said ≠ [] := by
  obtain ⟨s, ticked⟩ := Option.isSome_iff_exists.mp
    (by decide +kernel : (doorstep.tick 9).isSome = true)
  have shown : (doorstep.tick 9).all (fun s =>
      decide (s.settings.protocolVersion = 1) && decide (s.settings.buildVersion = 768) &&
      (s.journal[7]?.any fun e => e.sent?.any fun f => decide (f.opcode = Opcode.announce)) &&
      s.journal[11]?.any fun e => e.sent?.any fun f => decide (f.opcode = Opcode.pong)) =
        true := by
    decide +kernel
  rw [ticked, Option.all_some] at shown
  simp only [Bool.and_eq_true, decide_eq_true_eq] at shown
  obtain ⟨⟨⟨protocol, build⟩, announced⟩, ponged⟩ := shown
  obtain ⟨deeds, run⟩ := reachable_doorstep
  have reached : Reachable s := ⟨_, run.did 9 .tick ticked⟩
  obtain ⟨-, linked, only⟩ := announced_once reached
  obtain ⟨f, status, split, first⟩ := Journal.split_of_sent announced
  obtain ⟨g, status', split', second⟩ := Journal.split_of_sent ponged
  refine ⟨s, reached, ⟨_, _, f, status, split, first, ?_, ?_⟩,
    _, _, g, status', split', second, ?_, ?_⟩
  · exact (only _ _ f status split).1.mp first
  · rw [← protocol, ← build]
    exact (only _ _ f status split).2 first
  · exact linked _ _ _ g status' split' rfl
  · intro nothing
    have announces := (only _ _ g status' split').1.mpr nothing
    rw [second] at announces
    cases announces

/-- A channel at whose door a peer always waits. It refuses the first frame and closes, but takes
whatever follows. -/
structure Balky where
  connected : Bool
  refused : Bool
  inbox : List Frame

instance : Channel Balky where
  setup c := (.ok (), c)
  isReady _ := true
  connect c := (.ok true, { c with connected := true })
  isConnected := Balky.connected
  send _ c :=
    if c.refused then (.ok (), c)
    else (.error .connectionClosed, { c with connected := false, refused := true })
  receive c :=
    match c.inbox with
    | [] => (.nothing, c)
    | f :: inbox => (.frame f, { c with inbox := inbox })
  disconnect c := { c with connected := false }
  now _ := 0

instance : ClosingChannel Balky where
  setup_keeps _ connected := connected
  connect_keeps _ _ := .inr rfl
  send_keeps f c := by
    cases refused : c.refused <;> simp [Channel.send, Channel.isConnected, refused]
  receive_keeps c := by
    cases inbox : c.inbox <;> simp [Channel.receive, Channel.isConnected, inbox]
  disconnect_ends _ := rfl
  refused_closes f c e := by
    cases refused : c.refused <;> simp [Channel.send, Channel.isConnected, refused]

/-- A session over it, with a peer who sends a ping. -/
def balked : Session Balky Scripted.Catalog :=
  make {} .full { connected := false, refused := false, inbox := [⟨Opcode.ping, []⟩] }
    { natives := [] }

/-- To close when a frame is refused is not enough: the announcement is refused, and then the answer
to the ping is taken, the first frame that is sent to the newcomer. -/
theorem exists_unannounced : ClosingChannel Balky ∧ ∃ s : Session Balky Scripted.Catalog,
    Reachable s ∧ ∃ (before after : Journal Scripted.Catalog) (f : Frame) (status : Status),
      s.journal = before ++ .sent f status :: after ∧ f.opcode = Opcode.pong ∧
      before.linked = true ∧ before.said = [] := by
  obtain ⟨s, ticked⟩ := Option.isSome_iff_exists.mp
    (by decide +kernel : (balked.tick 9).isSome = true)
  have shown : (balked.tick 9).all (fun s =>
      decide (Journal.linked (s.journal.take 12) = true ∧ Journal.said (s.journal.take 12) = []) &&
      s.journal[12]?.any fun e => e.sent?.any fun f => decide (f.opcode = Opcode.pong)) =
        true := by
    decide +kernel
  rw [ticked, Option.all_some, Bool.and_eq_true, decide_eq_true_eq] at shown
  obtain ⟨⟨linked, silent⟩, ponged⟩ := shown
  obtain ⟨f, status, split, second⟩ := Journal.split_of_sent ponged
  have made : Run [] balked := .made {} .full ({ natives := [] } : Scripted.Catalog) rfl
  exact ⟨inferInstance, s, ⟨_, made.did 9 .tick ticked⟩, _, _, f, status, split, second, linked,
    silent⟩

end Session

end HostLink
