import HostLink.Proofs.Session.Firm

/-!
# HostLink.Proofs.Session.Course

The moments in the life of a session, those inside a wait that never ends among them. A *stride* is
the least that a session or the world around it does at one time, over any channel, lawful or not
(`Stride`). A course is any number of strides, and a session occurs if a course leads to it from a
new one (`Occurs`); a chronicle has the moments of this course (`Chronicle`). Every operation is a
course (`perform_course`), so that all sessions that a run leads to occur (`Reachable.occurs`).
-/

namespace HostLink.Session

variable {κ η : Type} [Channel κ] [Host η]

/-- What is done at one time. -/
inductive Stride : Session κ η → Session κ η → Prop where
  /-- The world does what it likes with the channel and the host. A look at the channel that finds
  nothing is no more than that. -/
  | passed {s : Session κ η} (c : κ) (h : η) : Stride s { s with channel := c, host := h }
  | noted {s : Session κ η} (n : Notice) : Stride s (s.note n)
  | prepared {s : Session κ η} : Stride s s.prepare.2
  | entered {s : Session κ η} {c : κ} (came : Channel.connect s.channel = (.ok true, c)) :
      Stride s (s.takeIn c)
  | ended {s : Session κ η} (context : Option String) (expected : Bool) :
      Stride s (s.disconnect context expected)
  | served {s t : Session κ η} {c : κ} {f : Frame} {step : Step}
      (came : Channel.receive s.channel = (.frame f, c))
      (served : Served f ({ s with channel := c }.hear f) step t) : Stride s t
  | asked {s : Session κ η} {c : κ} {f : Frame} {payload : Bytes}
      (came : Channel.receive s.channel = (.frame f, c))
      (asks : Asks f payload ({ s with channel := c }.hear f)) :
      Stride s (({ s with channel := c }.hear f).asking payload)
  | resumed {s : Session κ η} (reply : Option Bytes) : Stride s (s.resumed reply)
  | beaten {s : Session κ η} (allowed : s.status.allows .heartbeat = true) :
      Stride s (s.setHolding false).beat
  | observed {s : Session κ η} (name : String) : Stride s (s.observe name)
  | gated {s : Session κ η} (name : String) : Stride s (s.gate name).2
  | called {r s : Session κ η} {caller : UInt16} {name : String} {params : List Callback.Param}
      {payload : Bytes} (opened : r.gate name = (true, s))
      (written : s.callPayload caller name params = .ok (some payload)) :
      Stride s (s.send Opcode.publicCall payload)

/-- Any number of strides. -/
abbrev Course : Session κ η → Session κ η → Prop := Relation.ReflTransGen Stride

/-- A course of a new session with all its moments but the last. -/
inductive Chronicle : List (Session κ η) → Session κ η → Prop where
  | made (settings : SessionSettings) (listener : Listener) (channel : κ) (host : η) :
      Chronicle [] (make settings listener channel host)
  | next {moments : List (Session κ η)} {s t : Session κ η} (before : Chronicle moments s)
      (stride : Stride s t) : Chronicle (moments ++ [s]) t

/-- A session at some moment of its life. -/
def Occurs (s : Session κ η) : Prop :=
  ∃ settings listener channel host, Course (make settings listener channel host) s

theorem course_noteSilence (name : String) (reply : Option Bytes) (s : Session κ η) :
    Course s (s.noteSilence name reply) := by
  unfold noteSilence
  split
  · exact .refl
  · exact .single (.noted _)

theorem conduct_course : Conduct (Course : Session κ η → Session κ η → Prop) where
  refl _ := .refl
  trans := .trans
  prepared _ := .single .prepared
  alone {s c} _ := .single (.passed c s.host)
  failed {s c e} _ := by
    have looked : Course s { s with channel := c } := .single (.passed c s.host)
    exact looked.tail (.noted _)
  entered _ came := .single (.entered came)
  ended _ := .single (.ended _ _)
  idle {s c r} _ _ _ := .single (.passed c s.host)
  served _ came served := .single (.served came served)
  asked {s u c f payload} _ came asks waited reply := by
    have asked : Course s (({ s with channel := c }.hear f).asking payload) :=
      .single (.asked came asks)
    exact (asked.trans waited).tail (.resumed reply)
  strayed _ _ := .single (.noted _)
  beaten _ allowed := .single (.beaten allowed)
  observed name _ := .single (.observed name)
  gated name _ := .single (.gated name)
  unforwarded _ _ _ := .single (.noted _)
  called opened written := .single (.called opened written)
  silent := course_noteSilence

theorem perform_course {patience : Nat} {act : Act} {s t : Session κ η}
    (h : s.perform patience act = some t) : Course s t :=
  conduct_course.perform (fun came => .single (.entered came)) h

theorem occurs_make (settings : SessionSettings) (listener : Listener) (channel : κ) (host : η) :
    (make settings listener channel host : Session κ η).Occurs :=
  ⟨settings, listener, channel, host, .refl⟩

theorem Occurs.course {s t : Session κ η} (occurs : s.Occurs) (course : Course s t) :
    t.Occurs := by
  obtain ⟨settings, listener, channel, host, before⟩ := occurs
  exact ⟨settings, listener, channel, host, before.trans course⟩

theorem Chronicle.occurs {moments : List (Session κ η)} {s : Session κ η}
    (life : Chronicle moments s) : s.Occurs := by
  induction life with
  | made settings listener channel host => exact occurs_make settings listener channel host
  | next before stride ih => exact ih.course (.single stride)

theorem Occurs.chronicle {s : Session κ η} (occurs : s.Occurs) :
    ∃ moments, Chronicle moments s := by
  obtain ⟨settings, listener, channel, host, course⟩ := occurs
  induction course with
  | refl => exact ⟨[], .made settings listener channel host⟩
  | tail before next ih =>
    obtain ⟨moments, life⟩ := ih
    exact ⟨_, life.next next⟩

/-- What holds of new sessions and is kept by every stride holds at every moment. -/
theorem Occurs.keeps {I : Session κ η → Prop}
    (made : ∀ settings listener channel host, I (make settings listener channel host))
    (stride : ∀ s t, s.Occurs → Stride s t → I s → I t) {s : Session κ η} (occurs : s.Occurs) :
    I s := by
  obtain ⟨settings, listener, channel, host, course⟩ := occurs
  induction course with
  | refl => exact made settings listener channel host
  | tail before next ih => exact stride _ _ ⟨settings, listener, channel, host, before⟩ next ih

theorem Run.occurs {deeds : List (Deed κ η)} {s : Session κ η} (run : Run deeds s) : s.Occurs := by
  induction run with
  | made settings listener host fresh => exact occurs_make settings listener _ host
  | did _ patience act h ih => exact ih.course (perform_course h)
  | passed _ h peer ih => exact ih.course (.single (.passed _ h))

theorem Reachable.occurs {s : Session κ η} (reached : Reachable s) : s.Occurs := by
  obtain ⟨deeds, run⟩ := reached
  exact run.occurs

/-- A stride may raise or lower the mark of a delivery, but leaves the settings as they are. -/
theorem Stride.settings {s t : Session κ η} (stride : Stride s t) : t.settings = s.settings := by
  cases stride with
  | passed | noted => rfl
  | prepared => exact (firm_prepare s).settings
  | entered => exact (firm_takeIn _ s).settings
  | ended => exact (firm_disconnect _ _ s).settings
  | served _ served => exact served.firm.settings
  | asked => exact (firm_send _ _ _).settings
  | resumed reply => exact (firm_noteSilence _ reply _).settings
  | beaten => exact (firm_beat (s.setHolding false)).settings
  | observed name => exact (firm_observe name s).settings
  | gated name => exact (firm_gate name s).settings
  | called => exact (firm_send _ _ s).settings

end HostLink.Session
