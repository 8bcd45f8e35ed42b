import HostLink.Proofs.Session.Run

/-!
# HostLink.Proofs.Session.Firm

What stays the same in all that a session does: its settings, whether it delivers an init callback
and whether its handle has lent it out (`Firm`). The delivery lasts as long as one wait and no
longer, so that the host never finds one under way (`Run.idle`).
-/

namespace HostLink.Session

variable {κ η : Type}

structure Firm (s t : Session κ η) : Prop where
  settings : t.settings = s.settings
  delivering : t.delivering = s.delivering
  lent : t.lent = s.lent

namespace Firm

theorem refl (s : Session κ η) : Firm s s := ⟨rfl, rfl, rfl⟩

theorem trans {s t u : Session κ η} (h : Firm s t) (h' : Firm t u) : Firm s u :=
  ⟨h'.settings.trans h.settings, h'.delivering.trans h.delivering, h'.lent.trans h.lent⟩

theorem after {s t u : Session κ η} (h : Firm t u) (settings : t.settings = s.settings)
    (delivering : t.delivering = s.delivering) (lent : t.lent = s.lent) : Firm s u :=
  Firm.trans ⟨settings, delivering, lent⟩ h

end Firm

theorem firm_noteSilence (name : String) (reply : Option Bytes) (s : Session κ η) :
    Firm s (s.noteSilence name reply) := by
  unfold noteSilence
  split <;> exact ⟨rfl, rfl, rfl⟩

theorem firm_enterCallback (record : Bytes) (s : Session κ η) :
    Firm s (s.enterCallback record) := by
  unfold enterCallback
  split <;> exact ⟨rfl, rfl, rfl⟩

theorem firm_observe (name : String) (s : Session κ η) : Firm s (s.observe name) := by
  unfold observe
  split
  · exact ⟨rfl, rfl, rfl⟩
  · split <;> exact ⟨rfl, rfl, rfl⟩

theorem firm_restart [Host η] (s : Session κ η) : Firm s s.restart := by
  unfold restart
  split <;> exact ⟨rfl, rfl, rfl⟩

variable [Channel κ]

theorem firm_setUp (failed : Fault → Notice) (s : Session κ η) : Firm s (s.setUp failed).2 := by
  unfold setUp
  split <;> exact ⟨rfl, rfl, rfl⟩

theorem firm_prepare (s : Session κ η) : Firm s s.prepare.2 := by
  unfold prepare
  split
  · exact .refl s
  · exact firm_setUp _ s

theorem firm_send (opcode : UInt8) (payload : Bytes) (s : Session κ η) :
    Firm s (s.send opcode payload) := by
  unfold send
  split <;> exact ⟨rfl, rfl, rfl⟩

theorem firm_announce (s : Session κ η) : Firm s s.announce := by
  unfold announce
  dsimp only
  split
  · exact ⟨rfl, rfl, rfl⟩
  · rename_i payload written
    have sent := firm_send Opcode.announce payload (s.noteAll (Announcement.notices s.settings))
    exact ⟨sent.settings, sent.delivering, sent.lent⟩

theorem firm_takeIn (c : κ) (s : Session κ η) : Firm s (s.takeIn c) := by
  let opened : Session κ η := { s with channel := c }.record (.letIn s.memory)
  have greeted : Firm s opened.greet := ⟨rfl, rfl, rfl⟩
  exact greeted.trans (firm_announce opened.greet)

theorem firm_disconnect (context : Option String) (expected : Bool) (s : Session κ η) :
    Firm s (s.disconnect context expected) := by
  unfold disconnect
  split
  · let cause := s.status.cause expected
    have parted : Firm s ((s.farewell cause context).forget cause) := by
      cases cause <;> exact ⟨rfl, rfl, rfl⟩
    have closed : Firm s (((s.farewell cause context).forget cause).renewChannel cause s.memory) :=
      parted.trans ((firm_setUp .renewalFailed _).after rfl rfl rfl)
    exact closed.trans ⟨rfl, rfl, rfl⟩
  · exact .refl s

theorem firm_answerInvocation (caller : UInt16) (request : Bytes) (s : Session κ η) :
    Firm s (s.answerInvocation caller request) := by
  unfold answerInvocation
  split
  · exact ⟨rfl, rfl, rfl⟩
  · dsimp only
    exact (firm_send _ _ _).after rfl rfl rfl

theorem firm_beat (s : Session κ η) : Firm s s.beat := by
  unfold beat
  dsimp only
  split
  · exact ⟨rfl, rfl, rfl⟩
  · exact (firm_send _ _ _).after rfl rfl rfl

theorem firm_heartbeat (s : Session κ η) : Firm s s.heartbeat := by
  unfold heartbeat
  split
  · exact (firm_beat (s.setHolding false)).after rfl rfl rfl
  · exact .refl s

theorem firm_gate (name : String) (s : Session κ η) : Firm s (s.gate name).2 := by
  cases allowed : s.isConnected && s.status.allows .call with
  | false =>
    rw [gate_shut allowed]
    exact .refl s
  | true =>
    have cleared : Firm s (s.cleared name) := by
      unfold Session.cleared
      split <;> exact ⟨rfl, rfl, rfl⟩
    rw [gate_cleared allowed]
    split
    · exact cleared.trans ⟨rfl, rfl, rfl⟩
    · exact cleared

variable [Host η]

omit [Channel κ] in
theorem firm_consulted (name : String) (s : Session κ η) : Firm s (s.consulted name) := by
  unfold consulted
  dsimp only
  cases (s.natives.resolve name s.host).answer <;> exact ⟨rfl, rfl, rfl⟩

theorem firm_answerLookup (caller : UInt16) (name : String) (s : Session κ η) :
    Firm s (s.answerLookup caller name) := by
  have consulted := s.firm_consulted name
  rcases answerLookup_cases caller name s with ⟨e, -, eq⟩ | ⟨payload, -, eq⟩ <;> rw [eq]
  · exact consulted.trans ⟨rfl, rfl, rfl⟩
  · exact consulted.trans (firm_send _ _ _)

theorem Served.firm {f : Frame} {s t : Session κ η} {step : Step} (h : Served f s step t) :
    Firm s t := by
  cases h with
  | ping => exact firm_send _ _ s
  | registerCall => exact firm_enterCallback _ s
  | findNative => exact firm_answerLookup _ _ s
  | invokeNative => exact firm_answerInvocation _ _ s
  | reconnect => exact (firm_disconnect none true s.expecting).after rfl rfl rfl
  | restarts => exact (firm_restart _).after rfl rfl rfl
  | _ => exact ⟨rfl, rfl, rfl⟩

/-- All that a session does at one time is firm; a delivery raises its mark and lowers it again. -/
theorem conduct_firm : Conduct (Firm : Session κ η → Session κ η → Prop) where
  refl := .refl
  trans := .trans
  prepared {s} _ := firm_prepare s
  alone _ := ⟨rfl, rfl, rfl⟩
  failed _ := ⟨rfl, rfl, rfl⟩
  entered {s c} _ _ := firm_takeIn c s
  ended {s context expected} _ := firm_disconnect context expected s
  idle _ _ _ := ⟨rfl, rfl, rfl⟩
  served _ _ served := served.firm.after rfl rfl rfl
  asked {s u c f payload} tuned h asks waited reply := by
    let heard : Session κ η := { s with channel := c }.hear f
    have begun := firm_send Opcode.publicCall payload { heard.delivered with delivering := true }
    have resumed : Firm { u with delivering := false } (u.resumed reply) := firm_noteSilence _ _ _
    exact ⟨resumed.settings.trans (waited.settings.trans begun.settings),
      resumed.delivering.trans asks.idle.symm, resumed.lent.trans (waited.lent.trans begun.lent)⟩
  strayed _ _ := ⟨rfl, rfl, rfl⟩
  beaten {s} _ _ := (firm_beat (s.setHolding false)).after rfl rfl rfl
  observed := firm_observe
  gated := firm_gate
  unforwarded _ _ _ := ⟨rfl, rfl, rfl⟩
  called {r s caller name params payload} _ _ := firm_send Opcode.publicCall payload s
  silent := firm_noteSilence

theorem firm_connect (s : Session κ η) : Firm s s.connect.2 := by
  by_cases connected : Channel.isConnected s.channel = true
  · have eq : s.connect = (true, s) := by simp [Session.connect, connected]
    rw [eq]
    exact .refl s
  · rcases conduct_firm.connect_cases (eq_false_of_ne_true connected) with
      ⟨-, led⟩ | ⟨c, prepared, -, -, eq⟩
    · exact led
    · rw [eq]
      dsimp only
      exact prepared.trans (firm_takeIn c s.prepare.2)

theorem firm_perform {patience : Nat} {act : Act} {s t : Session κ η}
    (h : s.perform patience act = some t) : Firm s t :=
  conduct_firm.perform (fun {s c} _ => firm_takeIn c s) h

omit [Host η] in
theorem lent_make (settings : SessionSettings) (listener : Listener) (channel : κ) (host : η) :
    (make settings listener channel host).lent = false :=
  (firm_setUp .firstSetupFailed _).lent

/-- Between the host's deeds no delivery is under way. -/
theorem Run.idle {deeds : List (Deed κ η)} {s : Session κ η} (run : Run deeds s) :
    s.delivering = false := by
  induction run with
  | made settings listener host closed => exact (fresh_make settings listener host closed).idle
  | did _ patience act h ih => exact (firm_perform h).delivering.trans ih
  | passed _ h peer ih => exact ih

end HostLink.Session
