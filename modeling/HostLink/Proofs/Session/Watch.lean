import HostLink.Proofs.Pause.Ration
import HostLink.Proofs.Session.Course

/-!
# HostLink.Proofs.Session.Watch

A session and its pause detector. The detector hears of every frame that comes in, is checked when a
call gets past the status, and decides over every heartbeat; nothing else touches it, and it outlives
connections. So at every moment of a session it has been watched from its beginning
(`Occurs.watched`), and what is known of watched detectors holds of it.
-/

namespace HostLink.Session

open Pause (Detector Watched History)

variable {κ η : Type}

theorem detector_noteSilence (name : String) (reply : Option Bytes) (s : Session κ η) :
    (s.noteSilence name reply).detector = s.detector := by
  unfold noteSilence
  split <;> rfl

theorem detector_enterCallback (record : Bytes) (s : Session κ η) :
    (s.enterCallback record).detector = s.detector := by
  unfold enterCallback
  split <;> rfl

theorem detector_observe (name : String) (s : Session κ η) :
    (s.observe name).detector = s.detector := by
  unfold observe
  split
  · rfl
  · split <;> rfl

theorem detector_restart [Host η] (s : Session κ η) : s.restart.detector = s.detector := by
  unfold restart
  split <;> rfl

variable [Channel κ]

theorem detector_setUp (failed : Fault → Notice) (s : Session κ η) :
    (s.setUp failed).2.detector = s.detector := by
  unfold setUp
  split <;> rfl

theorem detector_prepare (s : Session κ η) : s.prepare.2.detector = s.detector := by
  unfold prepare
  split
  · rfl
  · exact detector_setUp _ s

theorem detector_send (opcode : UInt8) (payload : Bytes) (s : Session κ η) :
    (s.send opcode payload).detector = s.detector := by
  unfold send
  split <;> rfl

theorem detector_announce (s : Session κ η) : s.announce.detector = s.detector := by
  unfold announce
  dsimp only
  split
  · rfl
  · exact detector_send _ _ (s.noteAll (Announcement.notices s.settings))

theorem detector_takeIn (c : κ) (s : Session κ η) : (s.takeIn c).detector = s.detector := by
  let opened : Session κ η := { s with channel := c }.record (.letIn s.memory)
  exact detector_announce opened.greet

theorem detector_disconnect (context : Option String) (expected : Bool) (s : Session κ η) :
    (s.disconnect context expected).detector = s.detector := by
  unfold disconnect
  split
  · dsimp only
    generalize s.status.cause expected = cause
    have parted : ((s.farewell cause context).forget cause).detector = s.detector := by
      cases cause <;> rfl
    rw [← parted]
    exact detector_setUp .renewalFailed _
  · rfl

theorem detector_answerInvocation (caller : UInt16) (request : Bytes) (s : Session κ η) :
    (s.answerInvocation caller request).detector = s.detector := by
  unfold answerInvocation
  split
  · rfl
  · exact detector_send _ _ _

/-- A heartbeat that is due is attempted, at the time that the channel shows. -/
theorem detector_beat (s : Session κ η) :
    s.beat.detector = s.detector.attempt (Channel.now s.channel) := by
  rcases check : s.detector.checkTick (Channel.now s.channel) with ⟨_ | _, detector, notices⟩
  · simp only [beat, Detector.attempt, check]
    exact detector_send _ _ _
  · simp only [beat, Detector.attempt, check]
    rfl

/-- The detector is checked by a call that gets past the status, and by no other. -/
theorem detector_gate (name : String) (s : Session κ η) :
    (s.gate name).2.detector = s.detector ∨ (s.gate name).2.detector = s.detector.checkCall.2.1 := by
  have cleared : (s.cleared name).detector = s.detector := by
    unfold Session.cleared
    split <;> rfl
  cases allowed : s.isConnected && s.status.allows .call with
  | false =>
    rw [gate_shut allowed]
    exact .inl rfl
  | true =>
    rw [gate_cleared allowed]
    split
    · refine .inr ?_
      rw [← cleared]
      rfl
    · exact .inl cleared

variable [Host η]

omit [Channel κ] in
theorem detector_consulted (name : String) (s : Session κ η) :
    (s.consulted name).detector = s.detector := by
  unfold consulted
  dsimp only
  cases (s.natives.resolve name s.host).answer <;> rfl

theorem detector_answerLookup (caller : UInt16) (name : String) (s : Session κ η) :
    (s.answerLookup caller name).detector = s.detector := by
  have consulted := s.detector_consulted name
  rcases answerLookup_cases caller name s with ⟨e, -, eq⟩ | ⟨payload, -, eq⟩
  · rw [eq]
    exact consulted
  · rw [eq, detector_send]
    exact consulted

/-- To serve a frame does not touch the detector, which has heard of the frame before. -/
theorem Served.detector {f : Frame} {s t : Session κ η} {step : Step} (h : Served f s step t) :
    t.detector = s.detector := by
  cases h with
  | ping => exact detector_send _ _ s
  | registerCall => exact detector_enterCallback _ s
  | findNative => exact detector_answerLookup _ _ s
  | invokeNative => exact detector_answerInvocation _ _ s
  | reconnect => exact detector_disconnect none true s.expecting
  | restarts => exact detector_restart _
  | _ => rfl

/-- What one stride does with the detector. -/
theorem Stride.watched {s t : Session κ η} (stride : Stride s t) {c : PauseSettings}
    {past : History} (watched : Watched c past s.detector) : ∃ past, Watched c past t.detector := by
  cases stride with
  | passed => exact ⟨past, watched⟩
  | noted => exact ⟨past, watched⟩
  | prepared => exact ⟨past, by rwa [detector_prepare]⟩
  | entered => exact ⟨past, by rwa [detector_takeIn]⟩
  | ended => exact ⟨past, by rwa [detector_disconnect]⟩
  | @served _ _ c _ _ came served =>
    exact ⟨_, by rw [served.detector]; exact watched.interaction (Channel.now c)⟩
  | @asked _ c f payload came asks =>
    refine ⟨.interaction (Channel.now c) :: past, ?_⟩
    rw [Session.asking, detector_send]
    exact watched.interaction (Channel.now c)
  | resumed reply =>
    refine ⟨past, ?_⟩
    rwa [Session.resumed, detector_noteSilence]
  | beaten =>
    exact ⟨_, by rw [detector_beat]; exact watched.tick (Channel.now (s.setHolding false).channel)⟩
  | observed name => exact ⟨past, by rwa [detector_observe]⟩
  | gated name =>
    rcases detector_gate name s with same | checked
    · exact ⟨past, by rwa [same]⟩
    · exact ⟨_, by rw [checked]; exact watched.call (Channel.now s.channel)⟩
  | called => exact ⟨past, by rwa [detector_send]⟩

/-- At every moment of a session its detector has been watched from its beginning. -/
theorem Occurs.watched {s : Session κ η} (occurs : s.Occurs) :
    ∃ past, Watched s.settings.pause past s.detector := by
  refine occurs.keeps (I := fun s => ∃ past, Watched s.settings.pause past s.detector) ?_ ?_
  · intro settings listener channel host
    have detector : (make settings listener channel host : Session κ η).detector =
        .initial settings.pause := detector_setUp _ _
    have same : (make settings listener channel host : Session κ η).settings = settings :=
      (firm_setUp _ _).settings
    rw [detector, same]
    exact ⟨[], .start⟩
  · rintro s t - stride ⟨past, watched⟩
    rw [stride.settings]
    exact stride.watched watched

end HostLink.Session
