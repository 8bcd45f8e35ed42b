import HostLink.Proofs.Session.Trace

/-!
# HostLink.Proofs.Session.Memory

What a session remembers while its link is down. It depends only on how the last connection ended:
after an expected end it is what was remembered when that end began, and after any other end it is
nothing, except that the init callback may have been delivered once (`Memory.Follows`). Calls,
ticks and failed connects that come later put nothing back.

The unexpected end does not touch the intent. That the intent is clear afterwards rests on what
holds while the link is up: the runtime may have announced that it is about to leave, but not that
it is about to come back, since such an announcement ends the connection at once (`Settled`).
-/

namespace HostLink

/-- The end of a connection, with what was remembered when it began. -/
def Event.ended? {η : Type} : Event η → Option (Cause × Memory η)
  | .hungUp cause kept => some (cause, kept)
  | _ => none

/-- How the last connection ended, if there was one. -/
def Journal.lastEnd {η : Type} (j : Journal η) : Option (Cause × Memory η) :=
  (j.filterMap Event.ended?).getLast?

namespace Memory

variable {η : Type}

/-- Nothing is left of any runtime. -/
structure Blank (m : Memory η) : Prop where
  started : m.status.started = false
  intent : m.status.intent = .none
  natives : m.natives = .empty
  callbacks : m.callbacks = .empty

/-- What one memory has in common with another that was kept. -/
structure Retains (m kept : Memory η) : Prop where
  started : m.status.started = kept.status.started
  clientInit : m.status.clientInit = kept.status.clientInit
  natives : m.natives = kept.natives
  callbacks : m.callbacks = kept.callbacks

/-- What is remembered without a link, after the last connection has ended like this. -/
def Follows (m : Memory η) : Option (Cause × Memory η) → Prop
  | none => m.Blank ∧ m.status.clientInit = false
  | some (.expected, kept) => m.Retains kept
  | some (.declared, kept) => m.Blank ∧ m.status.clientInit = kept.status.clientInit
  | some (.unexpected, kept) => m.Blank ∧ m.status.clientInit = kept.status.clientInit

/-- Whether the host's script runs does not matter. -/
theorem Follows.hostInit {m : Memory η} {last : Option (Cause × Memory η)} (h : m.Follows last)
    (hostInit : Bool) :
    Follows ⟨{ m.status with hostInit := hostInit }, m.natives, m.callbacks⟩ last := by
  match last, h with
  | none, ⟨⟨a, b, c, d⟩, init⟩ => exact ⟨⟨a, b, c, d⟩, init⟩
  | some (.expected, kept), ⟨a, b, c, d⟩ => exact ⟨a, b, c, d⟩
  | some (.declared, kept), ⟨⟨a, b, c, d⟩, init⟩ => exact ⟨⟨a, b, c, d⟩, init⟩
  | some (.unexpected, kept), ⟨⟨a, b, c, d⟩, init⟩ => exact ⟨⟨a, b, c, d⟩, init⟩

end Memory

namespace Journal

variable {η : Type}

theorem Silent.ended {es : Journal η} (silent : es.Silent) : es.filterMap Event.ended? = [] := by
  refine List.filterMap_eq_nil_iff.mpr fun e mem => ?_
  have silent := silent e mem
  cases e with
  | hungUp _ _ => cases silent
  | _ => rfl

theorem lastEnd_silent (j : Journal η) {es : Journal η} (silent : es.Silent) :
    lastEnd (j ++ es) = lastEnd j := by
  simp [lastEnd, silent.ended]

theorem lastEnd_hungUp (j before : Journal η) {after : Journal η} (silent : after.Silent)
    (cause : Cause) (kept : Memory η) :
    lastEnd (j ++ (before ++ .hungUp cause kept :: after)) = some (cause, kept) := by
  have alone : (Event.hungUp cause kept :: after).filterMap Event.ended? = [(cause, kept)] := by
    simp [silent.ended, Event.ended?]
  simp [lastEnd, alone]

end Journal

namespace Session

variable {κ η : Type}

theorem Quietly.lastEnd {s t : Session κ η} (h : Quietly s t) :
    t.journal.lastEnd = s.journal.lastEnd := by
  obtain ⟨es, silent, journal⟩ := h.journal
  rw [journal, Journal.lastEnd_silent _ silent]

variable [Channel κ]

theorem Ended.lastEnd {cause : Cause} {s t : Session κ η} (h : Ended cause s t) :
    t.journal.lastEnd = some (cause, s.memory) := by
  obtain ⟨before, after, -, silent, journal⟩ := h.journal
  rw [journal, Journal.lastEnd_hungUp _ _ silent]

theorem Fresh.silent {s : Session κ η} (h : Fresh s) : s.journal.Silent := by
  obtain ⟨es, quiet, past⟩ := h.past
  simp [journal, past, quiet.silent, told_silent]

theorem Fresh.lastEnd {s : Session κ η} (h : Fresh s) : s.journal.lastEnd = none := by
  simp [Journal.lastEnd, h.silent.ended]

/-- While the link is up no return is announced; while it is down the memory follows the last end.
-/
structure Settled (s : Session κ η) : Prop where
  sound : s.Sound
  staying : s.status.isUp = true → s.status.intent ≠ .reconnecting
  follows : s.status.isUp = false → s.memory.Follows s.journal.lastEnd

theorem Fresh.settled [lawful : LawfulChannel κ] {s : Session κ η} (h : Fresh s) : Settled s where
  sound connected := by
    rw [h.closed lawful] at connected
    cases connected
  staying up := by
    have status : s.status = .initial := congrArg Memory.status h.memory
    rw [status] at up
    cases up
  follows _ := by
    rw [h.lastEnd, h.memory]
    exact ⟨⟨rfl, rfl, rfl, rfl⟩, rfl⟩

theorem Entered.settled {s t : Session κ η} (h : Entered s t) : Settled t where
  sound _ := h.isUp
  staying _ := by
    rw [h.status]
    unfold Status.connected
    split
    · simp
    · rename_i stays
      simpa [Status.isReturning] using stays
  follows down := by
    rw [h.isUp] at down
    cases down

/-- An end that was not expected clears the intent where no return was announced. -/
theorem disconnected_intent {cause : Cause} {status : Status} (bad : cause ≠ .expected)
    (judged : status.cause false = cause) (staying : status.intent ≠ .reconnecting) :
    (status.disconnected cause).intent = .none := by
  cases cause with
  | expected => exact absurd rfl bad
  | declared => rfl
  | unexpected =>
    have undeclared : status.intent ≠ .disconnecting := by
      intro leaving
      simp [Status.cause, leaving] at judged
    change status.intent = .none
    cases h : status.intent with
    | none => rfl
    | reconnecting => exact absurd h staying
    | disconnecting => exact absurd h undeclared

theorem Ended.settled [LawfulChannel κ] {cause : Cause} {s t : Session κ η} (h : Ended cause s t)
    (clear : cause ≠ .expected → (s.status.disconnected cause).intent = .none) : Settled t where
  sound := h.sound
  staying up := by
    rw [h.isUp] at up
    cases up
  follows _ := by
    have memory : t.memory = ⟨s.status.disconnected cause,
        if cause.clearsTables then .empty else s.natives,
        if cause.clearsTables then .empty else s.callbacks⟩ := by
      simp only [Session.memory, h.status, h.natives, h.callbacks]
    rw [h.lastEnd, memory]
    cases cause with
    | expected => exact ⟨rfl, rfl, rfl, rfl⟩
    | declared => exact ⟨⟨rfl, clear (by simp), rfl, rfl⟩, rfl⟩
    | unexpected => exact ⟨⟨rfl, clear (by simp), rfl, rfl⟩, rfl⟩

theorem Calm.staying {s t : Session κ η} (h : Calm s t)
    (staying : s.status.isUp = true → s.status.intent ≠ .reconnecting) (up : t.status.isUp = true) :
    t.status.intent ≠ .reconnecting := by
  have up : s.status.isUp = true := h.isUp.symm.trans up
  rcases h.intent up with same | leaving
  · rw [same]
    exact staying up
  · simp [leaving]

theorem Kind.settled [LawfulChannel κ] {s t : Session κ η} (kind : Kind s t) (h : Settled s) :
    Settled t := by
  have sound : t.Sound := kind.sound h.sound
  cases kind with
  | quiet calm recalls =>
    refine ⟨sound, calm.staying h.staying, fun down => ?_⟩
    have down : s.status.isUp = false := calm.isUp.symm.trans down
    obtain ⟨hostInit, memory⟩ := recalls down
    rw [memory, calm.quiet.lastEnd]
    exact (h.follows down).hostInit hostInit
  | heard heard calm =>
    have up : s.status.isUp = true := h.sound.tuned heard.tuned
    have same := congrArg (fun m => m.status.intent) heard.memory
    refine ⟨sound, calm.staying fun _ => ?_, fun down => ?_⟩
    · exact same ▸ h.staying up
    · rw [calm.isUp, heard.isUp, up] at down
      cases down
  | left _ _ ended => exact ended.settled fun bad => absurd rfl bad
  | entered _ entered => exact entered.settled
  | ended expected up ended =>
    refine ended.settled fun bad => disconnected_intent bad ?_ (h.staying up)
    cases expected with
    | true => exact absurd rfl bad
    | false => rfl

variable [Host η]

theorem Run.settled [LawfulChannel κ] {deeds : List (Deed κ η)} {s : Session κ η}
    (run : Run deeds s) : Settled s := by
  refine run.keeps ?_ (fun _ _ move => move.kind.settled) ?_ ?_
  · exact fun settings listener channel host closed =>
      (fresh_make settings listener host closed).settled
  · exact fun s t entered => entered.settled
  · exact fun s c h peer settled =>
      ⟨fun connected => settled.sound (peer connected), settled.staying, settled.follows⟩

/-- Whatever the host does, while the link is down the session remembers what the way in which the
last connection ended has left, and nothing else. -/
theorem memory_follows_lastEnd [LawfulChannel κ] {s : Session κ η} (reached : Reachable s)
    (down : s.status.isUp = false) : s.memory.Follows s.journal.lastEnd := by
  obtain ⟨deeds, run⟩ := reached
  exact run.settled.follows down

/-- A runtime that registers a callback, starts and announces that it will come back. -/
def leaver : Scripted.Wire :=
  { peers := [.visit [.frame ⟨Opcode.registerCall, [79, 110, 70, 111, 111, 0]⟩,
      .frame ⟨Opcode.start, []⟩, .frame ⟨Opcode.reconnect, []⟩]] }

/-- When it has left, its callback is still there. -/
theorem memory_follows_leaver : ∃ s : Session Scripted.Wire Scripted.Catalog,
    (rehearsal leaver).tick 9 = some s ∧ s.status.isUp = false ∧ s.callbacks.length = 1 ∧
      s.memory.Follows s.journal.lastEnd := by
  obtain ⟨t, ticked⟩ := Option.isSome_iff_exists.mp
    (by decide : ((rehearsal leaver).tick 9).isSome = true)
  have run : Run [⟨.tick, rehearsal leaver⟩] t := (run_rehearsal rfl).did 9 .tick ticked
  have shown : ((rehearsal leaver).tick 9).all
      (fun t => !t.status.isUp && decide (t.callbacks.length = 1)) = true := by decide
  rw [ticked, Option.all_some, Bool.and_eq_true, Bool.not_eq_true', decide_eq_true_eq] at shown
  exact ⟨t, ticked, shown.1, shown.2, memory_follows_lastEnd ⟨_, run⟩ shown.1⟩

end Session

end HostLink
