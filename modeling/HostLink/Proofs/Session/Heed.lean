import HostLink.Proofs.Session.Kind
import HostLink.Proofs.Session.Trace

/-!
# HostLink.Proofs.Session.Heed

What a session comes to know of its runtime from its frames. While the link is up only two things
matter to the calls of the host, whether the runtime has started and what it has announced. Serving
a frame changes them as the frame's opcode says (`Heeds`), and nothing else that a session does
changes them at all (`Abides`).

* `Command.opcode_of_decode` — the table of opcodes, read backwards.
* `Served.heeds` — a frame that is served and does not end the connection is heeded.
* `Move.lasts`   — what a move has done that leaves the link up.
-/

namespace HostLink

namespace Command

/-- The opcode that stands for a command. -/
def opcode : Command → UInt8
  | .ping => Opcode.ping
  | .print _ => Opcode.print
  | .reconnect => Opcode.reconnect
  | .registerCall _ => Opcode.registerCall
  | .findNative _ _ => Opcode.findNative
  | .invokeNative _ _ => Opcode.invokeNative
  | .start _ => Opcode.start
  | .disconnect => Opcode.disconnect
  | .alive => Opcode.alive

theorem opcode_findNative {payload : Bytes} {c : Command} (h : decodeFindNative payload = .ok c) :
    c.opcode = Opcode.findNative := by
  unfold decodeFindNative at h
  split at h
  · cases h
  · split at h <;> cases h
    rfl

theorem opcode_invokeNative {payload : Bytes} {c : Command}
    (h : decodeInvokeNative payload = .ok c) : c.opcode = Opcode.invokeNative := by
  unfold decodeInvokeNative at h
  split at h <;> cases h
  rfl

theorem opcode_start (payload : Bytes) : (decodeStart payload).opcode = Opcode.start := by
  cases payload <;> rfl

theorem map_some_eq_ok {r : Except Fault Command} {c : Command} (h : r.map some = .ok (some c)) :
    r = .ok c := by
  cases r with
  | error e => cases h
  | ok c' =>
    cases h
    rfl

/-- The opcode of the command in a row of the table, unless the command is in a row below it. -/
theorem opcode_of_row {f : Frame} {op : UInt8} {row below : Except Fault (Option Command)}
    {c : Command} (bears : row = .ok (some c) → c.opcode = op)
    (h : (if f.opcode = op then row else below) = .ok (some c)) :
    f.opcode = c.opcode ∨ below = .ok (some c) := by
  by_cases found : f.opcode = op
  · rw [if_pos found] at h
    exact .inl (found.trans (bears h).symm)
  · rw [if_neg found] at h
    exact .inr h

/-- A frame that is a command bears the opcode of the command. -/
theorem opcode_of_decode {f : Frame} {c : Command} (h : decode f = .ok (some c)) :
    f.opcode = c.opcode := by
  unfold decode at h
  refine (opcode_of_row (by rintro ⟨⟩; rfl) h).elim id fun h => ?_
  refine (opcode_of_row (by rintro ⟨⟩; rfl) h).elim id fun h => ?_
  refine (opcode_of_row (by rintro ⟨⟩; rfl) h).elim id fun h => ?_
  refine (opcode_of_row (by rintro ⟨⟩; rfl) h).elim id fun h => ?_
  refine (opcode_of_row (fun row => opcode_findNative (map_some_eq_ok row)) h).elim id fun h => ?_
  refine (opcode_of_row (fun row => opcode_invokeNative (map_some_eq_ok row)) h).elim id fun h => ?_
  refine (opcode_of_row (by rintro ⟨⟩; exact opcode_start _) h).elim id fun h => ?_
  refine (opcode_of_row (by rintro ⟨⟩; rfl) h).elim id fun h => ?_
  refine (opcode_of_row (by rintro ⟨⟩; rfl) h).elim id fun h => ?_
  cases h

end Command

namespace Frame

/-- The runtime says that it has started. -/
def Starts (f : Frame) : Prop := f.opcode = Opcode.start

/-- The runtime says that it leaves, for good or to come back. -/
def Departs (f : Frame) : Prop := f.opcode = Opcode.disconnect ∨ f.opcode = Opcode.reconnect

theorem Starts.decode {f : Frame} (h : f.Starts) :
    Command.decode f = .ok (some (Command.decodeStart f.payload)) := by
  obtain ⟨opcode, payload⟩ := f
  obtain rfl : opcode = Opcode.start := h
  rfl

theorem Departs.decode {f : Frame} (h : f.Departs) : ∃ c, Command.decode f = .ok (some c) := by
  obtain ⟨opcode, payload⟩ := f
  obtain rfl | rfl : opcode = Opcode.disconnect ∨ opcode = Opcode.reconnect := h
  · exact ⟨.disconnect, rfl⟩
  · exact ⟨.reconnect, rfl⟩

end Frame

namespace Session

variable {κ η : Type}

/-- Nothing new is known of the runtime. -/
structure Abides (s t : Session κ η) : Prop where
  started : t.status.started = s.status.started
  intent : t.status.intent = s.status.intent

/-- What is known of the runtime is what was known, and what this frame says. -/
structure Heeds (f : Frame) (s t : Session κ η) : Prop where
  started : t.status.started = true ↔ s.status.started = true ∨ f.Starts
  intent : t.status.intent = .none ↔ s.status.intent = .none ∧ ¬ f.Departs

theorem Abides.of_status {s t : Session κ η} (h : t.status = s.status) : Abides s t :=
  ⟨by rw [h], by rw [h]⟩

/-- A frame that is no command says nothing of its runtime. -/
theorem Abides.heeds {s t : Session κ η} (h : Abides s t) {f : Frame}
    (unknown : ∀ c, Command.decode f ≠ .ok (some c)) : Heeds f s t where
  started := by
    have running : ¬ f.Starts := fun starts => unknown _ starts.decode
    simp [h.started, running]
  intent := by
    have staying : ¬ f.Departs := fun departs => departs.decode.elim unknown
    simp [h.intent, staying]

theorem heeds_of_status {s t : Session κ η} {f : Frame} (opcode : UInt8)
    (bears : f.opcode = opcode) (same : t.status = s.status)
    (plain : opcode ≠ Opcode.start ∧ opcode ≠ Opcode.disconnect ∧ opcode ≠ Opcode.reconnect) :
    Heeds f s t where
  started := by simp [same, Frame.Starts, bears, plain]
  intent := by simp [same, Frame.Departs, bears, plain]

theorem heeds_start {s t : Session κ η} {f : Frame} (bears : f.opcode = Opcode.start)
    (started : t.status.started = true) (same : t.status.intent = s.status.intent) :
    Heeds f s t where
  started := by simp [started, Frame.Starts, bears]
  intent := by
    have staying : ¬ f.Departs := by
      rw [Frame.Departs, bears]
      decide
    simp [same, staying]

theorem enterCallback_status (record : Bytes) (s : Session κ η) :
    (s.enterCallback record).status = s.status := by
  unfold enterCallback
  split <;> rfl

theorem abides_observe (name : String) (s : Session κ η) : Abides s (s.observe name) := by
  unfold observe
  split
  · exact ⟨rfl, rfl⟩
  · split <;> exact ⟨rfl, rfl⟩

variable [Channel κ]

theorem heeds_asking {f : Frame} {payload : Bytes} {s : Session κ η} (asks : Asks f payload s) :
    Heeds f s (s.asking payload) := by
  have status : (s.asking payload).status = s.status.remoteStarted.initDelivered :=
    (still_send _ payload _).status
  exact heeds_start (Command.opcode_of_decode asks.command) (by rw [status]; rfl)
    (by rw [status]; rfl)

theorem abides_gate (name : String) (s : Session κ η) : Abides s (s.gate name).2 := by
  have cleared : Abides s (s.cleared name) := by
    unfold cleared
    split <;> exact ⟨rfl, rfl⟩
  cases allowed : s.isConnected && s.status.allows .call with
  | false =>
    rw [gate_shut allowed]
    exact .of_status rfl
  | true =>
    rw [gate_cleared allowed]
    split
    · exact ⟨cleared.started, cleared.intent⟩
    · exact cleared

/-! ## Moves -/

/-- What a move has done that leaves the link up. -/
inductive Lasts (s t : Session κ η) : Prop where
  | quiet (up : s.status.isUp = true) (quiet : Quietly s t) (abides : Abides s t)
  | heard {f : Frame} {es : Journal η} (up : s.status.isUp = true) (silent : es.Silent)
      (journal : t.journal = s.journal ++ .received f :: es) (heeds : Heeds f s t)
  | entered (down : s.status.isUp = false) (entered : Entered s t)

theorem Calm.lasts {s t : Session κ η} (h : Calm s t) (abides : Abides s t)
    (up : t.status.isUp = true) : Lasts s t :=
  .quiet (h.isUp.symm.trans up) h.quiet abides

theorem Still.lasts {s t : Session κ η} (h : Still s t) (up : t.status.isUp = true) :
    Lasts s t :=
  h.calm.lasts (.of_status h.status) up

theorem Calm.lasts_hear {s t : Session κ η} {c : κ} {f : Frame}
    (h : Calm ({ s with channel := c }.hear f) t)
    (heeds : Heeds f ({ s with channel := c }.hear f) t) (up : t.status.isUp = true) :
    Lasts s t := by
  obtain ⟨es, silent, journal⟩ := h.quiet.journal
  refine .heard (h.isUp.symm.trans up) silent ?_ ⟨heeds.started, heeds.intent⟩
  rw [journal, journal_hear, List.append_assoc]
  rfl

section Serving

variable [Host η]

theorem answerLookup_status (caller : UInt16) (name : String) (s : Session κ η) :
    (s.answerLookup caller name).status = s.status := by
  have consulted : (s.consulted name).status = s.status := by
    unfold consulted
    dsimp only
    cases (s.natives.resolve name s.host).answer <;> rfl
  rcases answerLookup_cases caller name s with ⟨e, -, eq⟩ | ⟨payload, -, eq⟩
  · rw [eq]
    exact consulted
  · rw [eq, (still_send _ _ _).status, consulted]

/-- To serve a frame that does not end the connection is to heed it. -/
theorem Served.heeds {f : Frame} {s t : Session κ η} {step : Step} (h : Served f s step t)
    (up : t.status.isUp = true) : Heeds f s t := by
  cases h with
  | @malformed e decoded =>
    have unknown (c : Command) : Command.decode f ≠ .ok (some c) := by simp [decoded]
    have noted : Abides s (s.note (.malformed f.opcode e)) := .of_status rfl
    exact noted.heeds unknown
  | answer decoded =>
    have unknown (c : Command) : Command.decode f ≠ .ok (some c) := by simp [decoded]
    exact (Abides.of_status rfl).heeds unknown
  | ping decoded =>
    exact heeds_of_status Opcode.ping (Command.opcode_of_decode decoded)
      (still_send _ _ s).status (by decide)
  | print decoded =>
    exact heeds_of_status Opcode.print (Command.opcode_of_decode decoded) rfl (by decide)
  | alive decoded =>
    exact heeds_of_status Opcode.alive (Command.opcode_of_decode decoded) rfl (by decide)
  | registerCall decoded =>
    exact heeds_of_status Opcode.registerCall (Command.opcode_of_decode decoded)
      (enterCallback_status _ s) (by decide)
  | findNative decoded =>
    exact heeds_of_status Opcode.findNative (Command.opcode_of_decode decoded)
      (answerLookup_status _ _ s) (by decide)
  | invokeNative decoded =>
    exact heeds_of_status Opcode.invokeNative (Command.opcode_of_decode decoded)
      (still_answerInvocation _ _ s).status (by decide)
  | reconnect =>
    -- the connection has ended, or there was none
    cases linked : s.expecting.status.isUp with
    | true =>
      rw [(ended_disconnect none true linked).isUp] at up
      cases up
    | false =>
      have eq : s.expecting.disconnect none true = s.expecting := if_neg (by simp [linked])
      rw [eq, linked] at up
      cases up
  | disconnect decoded =>
    have opcode : f.opcode = Opcode.disconnect := Command.opcode_of_decode decoded
    refine ⟨?_, by simp [Status.disconnectRequested, Frame.Departs, opcode]⟩
    have running : ¬ f.Starts := by
      rw [Frame.Starts, opcode]
      decide
    simp [Status.disconnectRequested, running]
  | waits decoded => exact heeds_start (Command.opcode_of_decode decoded) rfl rfl
  | restarts decoded =>
    have same := (still_restart (s.begun.note .startsRestarting)).status
    exact heeds_start (Command.opcode_of_decode decoded) (by rw [same]; rfl) (by rw [same]; rfl)
  | unknown decoded => exact heeds_start (Command.opcode_of_decode decoded) rfl rfl
  | early decoded => exact heeds_start (Command.opcode_of_decode decoded) rfl rfl
  | nested decoded => exact heeds_start (Command.opcode_of_decode decoded) rfl rfl
  | unwritable decoded => exact heeds_start (Command.opcode_of_decode decoded) rfl rfl
  | unregistered decoded => exact heeds_start (Command.opcode_of_decode decoded) rfl rfl

theorem Move.lasts {s t : Session κ η} (move : Move s t) (up : t.status.isUp = true) :
    Lasts s t := by
  cases move with
  | prepared => exact (still_prepare s).lasts up
  | alone h => exact (still_refused h (by simp)).lasts up
  | failed h => exact ((still_refused h (by simp)).trans (still_note _ _)).lasts up
  | entered down h => exact .entered down (entered_takeIn _ s)
  | ended linked =>
    rw [(ended_disconnect _ _ linked).isUp] at up
    cases up
  | idle tuned h _ => exact (still_receive h).lasts up
  | served tuned h served =>
    rcases served.calm with calm | ⟨-, -, ended⟩
    · exact calm.lasts_hear (served.heeds up) up
    · rw [ended.isUp] at up
      cases up
  | asked tuned h asks => exact (calm_asking _ _).lasts_hear (heeds_asking asks) up
  | resumed reply => exact (still_resumed reply s).lasts up
  | strayed size => exact (still_note _ s).lasts up
  | beaten => exact ((still_setHolding false s).trans (still_beat _)).lasts up
  | observed name => exact (calm_observe name s).lasts (abides_observe name s) up
  | gated name => exact (calm_gate name s).1.lasts (abides_gate name s) up
  | unforwarded name e => exact (still_note _ s).lasts up
  | called payload => exact (still_send _ payload s).lasts up
  | silent name reply => exact (still_noteSilence name reply s).lasts up

end Serving

end Session

end HostLink
