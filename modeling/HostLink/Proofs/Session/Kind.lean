import HostLink.Proofs.Session.Move

/-!
# HostLink.Proofs.Session.Kind

What the moves do to the link. A move is quiet, takes a frame in, obeys a reconnect, lets a runtime
in, or ends a connection (`Move.kind`). Over a lawful channel no path leaves a runtime connected
while the link is down (`Path.sound`), so that frames come in only while the link is up.
-/

namespace HostLink.Session

variable {κ η : Type} [Channel κ]

/-- The session `t` is `s` with a frame taken in. -/
structure Heard (f : Frame) (s t : Session κ η) : Prop where
  tuned : s.Tuned
  memory : t.memory = s.memory
  listener : t.holding.listener = s.holding.listener
  past : t.past = .received f :: s.past

theorem Heard.isUp {f : Frame} {s t : Session κ η} (h : Heard f s t) :
    t.status.isUp = s.status.isUp :=
  congrArg (fun m => m.status.isUp) h.memory

/-- All that is remembered is as it was, except perhaps whether the host's script runs. -/
def Recalls (s t : Session κ η) : Prop :=
  ∃ hostInit, t.memory = ⟨{ s.status with hostInit := hostInit }, s.natives, s.callbacks⟩

/-- The kinds of move. -/
inductive Kind (s t : Session κ η) : Prop where
  | quiet (calm : Calm s t) (recalls : s.status.isUp = false → s.Recalls t)
  | heard {f : Frame} {u : Session κ η} (heard : Heard f s u) (calm : Calm u t)
  | left {f : Frame} {u : Session κ η} (heard : Heard f s u) (up : u.status.isUp = true)
      (ended : Ended .expected u.expecting t)
  | entered (down : s.status.isUp = false) (entered : Entered s t)
  | ended (expected : Bool) (up : s.status.isUp = true)
      (ended : Ended (s.status.cause expected) s t)

theorem heard_hear {s : Session κ η} {c : κ} {f : Frame} (tuned : s.Tuned) :
    Heard f s ({ s with channel := c }.hear f) :=
  ⟨tuned, rfl, rfl, rfl⟩

theorem Still.kind {s t : Session κ η} (h : Still s t) : Kind s t :=
  .quiet h.calm fun _ => ⟨s.status.hostInit, h.memory⟩

/-- Whoever is connected to the channel has the link up. -/
def Sound (s : Session κ η) : Prop :=
  Channel.isConnected s.channel = true → s.status.isUp = true

theorem Sound.tuned {s : Session κ η} (sound : s.Sound) (tuned : s.Tuned) :
    s.status.isUp = true := by
  rcases tuned with connected | up
  · exact sound connected
  · exact up

theorem Ended.sound [lawful : LawfulChannel κ] {cause : Cause} {s t : Session κ η}
    (h : Ended cause s t) : t.Sound := by
  intro connected
  rw [h.closed lawful] at connected
  cases connected

theorem Kind.sound [lawful : LawfulChannel κ] {s t : Session κ η} (kind : Kind s t)
    (sound : s.Sound) : t.Sound := by
  cases kind with
  | quiet calm _ =>
    intro connected
    rw [calm.isUp]
    exact sound (calm.peer lawful connected)
  | heard heard calm =>
    intro _
    rw [calm.isUp, heard.isUp]
    exact sound.tuned heard.tuned
  | left _ _ ended => exact ended.sound
  | entered _ entered => exact fun _ => entered.isUp
  | ended _ _ ended => exact ended.sound

variable [Host η]

theorem Move.kind {s t : Session κ η} (move : Move s t) : Kind s t := by
  cases move with
  | prepared => exact (still_prepare s).kind
  | alone h => exact (still_refused h (by simp)).kind
  | failed h => exact ((still_refused h (by simp)).trans (still_note _ _)).kind
  | entered down h => exact .entered down (entered_takeIn _ s)
  | ended up => exact .ended _ up (ended_disconnect _ _ up)
  | idle tuned h _ => exact (still_receive h).kind
  | served tuned h served =>
    rcases served.calm with calm | ⟨up, -, ended⟩
    · exact .heard (heard_hear tuned) calm
    · exact .left (heard_hear tuned) up ended
  | asked tuned h asks => exact .heard (heard_hear tuned) (calm_asking _ _)
  | resumed reply => exact (still_resumed reply s).kind
  | strayed size => exact (still_note _ s).kind
  | beaten => exact ((still_setHolding false s).trans (still_beat _)).kind
  | observed name =>
    refine .quiet (calm_observe name s) fun _ => ?_
    unfold observe
    split
    · exact ⟨true, rfl⟩
    · split
      · exact ⟨false, rfl⟩
      · exact ⟨s.status.hostInit, rfl⟩
  | gated name =>
    obtain ⟨calm, still⟩ := calm_gate name s
    exact .quiet calm fun down => ⟨s.status.hostInit, (still down).memory⟩
  | unforwarded name e => exact (still_note _ s).kind
  | called payload => exact (still_send _ payload s).kind
  | silent name reply => exact (still_noteSilence name reply s).kind

theorem Path.sound [LawfulChannel κ] {s t : Session κ η} (path : Path s t) (sound : s.Sound) :
    t.Sound :=
  path.keeps (fun _ _ move => move.kind.sound) sound

end HostLink.Session
