import HostLink.Proofs.Session.Discreet
import HostLink.Proofs.Session.Lent
import HostLink.Proofs.Session.Undisturbed

/-!
# HostLink.Proofs.Reentry

What natives ask of the handle while a session runs them. The handle has lent the session out by
then, and the session bears the mark of it all the while, so that a native finds the handle in use
and is refused (`refuses_serveBy`, and `attend_lent` for all that a native asks). Whatever the host
does with the handle then comes to the same whether its natives ask or not (`useBy_discreet` for one
use, `runBy_discreet` for one after the other), and leaves the session in the handle (`runBy_free`).

* `reentry_refused` — nested requests are refused, and what is seen between the uses of the handle
  is the same without them.
-/

namespace HostLink

variable {κ η : Type}

/-! ## Uses of the handle -/

namespace Handle

/-- What happens next to a handle: the host asks something of it, or does something with the session
that it holds, or the world has its way with the channel and the host. -/
inductive Use (κ η : Type) where
  | ask (q : Native.Request)
  | hold (act : Session.Act)
  | passed (c : κ) (h : η)

instance (q : Native.Request) : DecidableEq q.Answer :=
  match q with
  | .tick => inferInstanceAs (DecidableEq Bool)
  | .call .. => inferInstanceAs (DecidableEq (Option Int32))
  | .terminate _ => inferInstanceAs (DecidableEq Unit)
  | .inspect => inferInstanceAs (DecidableEq (Option Bool))

/-- What is given back for a use. -/
inductive Returned where
  | nothing
  | answer (q : Native.Request) (a : q.Answer)
  | held (ret : Session.Return)
  /-- The session was not to be had. -/
  | refused
  deriving DecidableEq

def Returned.ofHeld : Option Session.Return → Returned
  | some ret => .held ret
  | none => .refused

/-- What is to be seen after a use: what was given back, and the session if it is there. -/
structure Sight (η : Type) where
  returned : Returned
  view : Option (Session.View η)

variable [Channel κ]

/-- What is seen of the session in the handle. -/
def view? : Handle κ η → Option (Session.View η)
  | .free s => some (s.view none)
  | .inUse => none

variable [Host η]

/-- What is given back for a use, and the handle after it; `none` when the patience ran out. Natives
that run meanwhile turn to the given attendant. -/
def useBy (attendant : Attendant κ η) (patience : Nat) :
    Use κ η → Handle κ η → Option (Returned × Handle κ η)
  | .ask q, h => (serveBy attendant patience q h).map fun served =>
    (.answer q served.answer, served.handle)
  | .hold act, h =>
    letI := Session.Invoker.attending attendant
    (h.lend fun s => s.respond patience act).map fun r => (.ofHeld r.1, r.2)
  | .passed c h, .free s => some (.nothing, .free { s with channel := c, host := h })
  | .passed _ _, .inUse => some (.nothing, .inUse)

/-- Uses of the handle one after the other, with what is seen after each. -/
def runBy (attendant : Attendant κ η) (patience : Nat) :
    List (Use κ η) → Handle κ η → Option (List (Sight η) × Handle κ η)
  | [], h => some ([], h)
  | u :: uses, h =>
    (useBy attendant patience u h).bind fun r =>
      (runBy attendant patience uses r.2).map fun rest => (⟨r.1, r.2.view?⟩ :: rest.1, rest.2)

/-- Uses one after the other, when natives turn to the handle itself. -/
def run (patience : Nat) : List (Use κ η) → Handle κ η → Option (List (Sight η) × Handle κ η) :=
  runBy (inner patience) patience

end Handle

/-! ## Refusal -/

namespace Handle

/-- Whoever attends like this turns everyone away: there was no tick, a call has no value, an end is
not made, and whether a runtime is connected is not told. -/
def turnAway : Attendant κ η
  | .tick, h => some ⟨false, [.reentrantTick], h⟩
  | .call _ name _, h => some ⟨none, [.reentrantCall name], h⟩
  | .terminate _, h => some ⟨(), [.reentrantTerminate], h⟩
  | .inspect, h => some ⟨none, [], h⟩

theorem refuses_turnAway : (turnAway : Attendant κ η).Refuses := by
  intro q
  cases q <;> rfl

variable [Channel κ] [Host η] {attendant : Attendant κ η}

theorem refuses_serveBy (attendant : Attendant κ η) (patience : Nat) :
    (serveBy attendant patience).Refuses :=
  fun _ => rfl

theorem refuses_inner (patience : Nat) : (inner patience : Attendant κ η).Refuses := by
  cases patience with
  | zero => exact refuses_serveBy _ 0
  | succ n => exact refuses_serveBy (inner n) (n + 1)

/-- What is asked while the session is held is refused, and the session is given back. -/
theorem within_free (patience : Nat) (q : Native.Request) (s : Session κ η) :
    within patience q (.free s) =
      some (some q.refusal, .free { s.noteAll (Session.refusalNotices q) with lent := false }) := by
  have told := Session.turnTo_lent (s := s.setLent true) (refuses_serveBy (inner patience) patience)
    rfl q
  unfold within lend
  dsimp only
  rw [show (s.setLent true).turnTo (serve patience) q = _ from told]
  rfl

/-- A request is served on the session, as the session would do by itself. -/
theorem serveBy_free (refuses : attendant.Refuses) (patience : Nat) (q : Native.Request)
    (s : Session κ η) : serveBy attendant patience q (.free s) =
      (perform patience (s.setLent true) q).map fun r => ⟨r.1, [], .free (r.2.setLent false)⟩ := by
  unfold serveBy lend
  dsimp only
  rw [Session.perform_lent refuses patience q rfl]
  cases perform patience (s.setLent true) q <;> rfl

/-- What is done with the session is what it would do by itself. -/
theorem useBy_hold (refuses : attendant.Refuses) (patience : Nat) (act : Session.Act)
    (s : Session κ η) : useBy attendant patience (.hold act) (.free s) =
      ((s.setLent true).respond patience act).map fun r =>
        (.held r.1, .free (r.2.setLent false)) := by
  unfold useBy lend
  dsimp only
  rw [Session.respond_lent refuses patience act rfl, Option.map_map]
  rfl

theorem useBy_ask (refuses : attendant.Refuses) (patience : Nat) (q : Native.Request)
    (s : Session κ η) : useBy attendant patience (.ask q) (.free s) =
      (perform patience (s.setLent true) q).map fun r =>
        (.answer q r.1, .free (r.2.setLent false)) := by
  unfold useBy
  dsimp only
  rw [serveBy_free refuses, Option.map_map]
  rfl

/-- Whoever refuses at a handle in use may attend to natives: each use comes to the same. -/
theorem useBy_congr {other : Attendant κ η} (refuses : attendant.Refuses)
    (refuses' : other.Refuses) (patience : Nat) (u : Use κ η) (h : Handle κ η) :
    useBy attendant patience u h = useBy other patience u h := by
  cases h with
  | inUse => cases u <;> rfl
  | free s =>
    cases u with
    | ask q => rw [useBy_ask refuses, useBy_ask refuses']
    | hold act => rw [useBy_hold refuses, useBy_hold refuses']
    | passed c h => rfl

theorem runBy_congr {other : Attendant κ η} (refuses : attendant.Refuses)
    (refuses' : other.Refuses) (patience : Nat) (uses : List (Use κ η)) (h : Handle κ η) :
    runBy attendant patience uses h = runBy other patience uses h := by
  induction uses generalizing h with
  | nil => rfl
  | cons u uses ih => simp only [runBy, useBy_congr refuses refuses', ih]

/-- When a use of a free handle has come to its end, the handle is free again. -/
theorem useBy_free (refuses : attendant.Refuses) {patience : Nat} {u : Use κ η} {s : Session κ η}
    {ret : Returned} {h : Handle κ η} (idle : s.lent = false)
    (used : useBy attendant patience u (.free s) = some (ret, h)) :
    ∃ t, h = .free t ∧ t.lent = false := by
  cases u with
  | ask q =>
    rw [useBy_ask refuses] at used
    obtain ⟨r, -, eq⟩ := Option.map_eq_some_iff.mp used
    cases eq
    exact ⟨r.2.setLent false, rfl, rfl⟩
  | hold act =>
    rw [useBy_hold refuses] at used
    obtain ⟨r, -, eq⟩ := Option.map_eq_some_iff.mp used
    cases eq
    exact ⟨r.2.setLent false, rfl, rfl⟩
  | passed c h =>
    cases used
    exact ⟨_, rfl, idle⟩

theorem runBy_free (refuses : attendant.Refuses) {patience : Nat} {uses : List (Use κ η)}
    {s : Session κ η} {sights : List (Sight η)} {h : Handle κ η} (idle : s.lent = false)
    (used : runBy attendant patience uses (.free s) = some (sights, h)) :
    ∃ t, h = .free t ∧ t.lent = false := by
  induction uses generalizing s sights with
  | nil =>
    cases used
    exact ⟨s, rfl, idle⟩
  | cons u uses ih =>
    obtain ⟨⟨ret, t⟩, first, others⟩ := Option.bind_eq_some_iff.mp used
    obtain ⟨s', rfl, idle'⟩ := useBy_free refuses idle first
    obtain ⟨⟨after, last⟩, rest, eq⟩ := Option.map_eq_some_iff.mp others
    cases eq
    exact ih idle' rest

end Handle

/-! ## Without the asking -/

/-- The same view, of natives that ask nothing. -/
def Session.View.discreet (v : Session.View η) : Session.View (Discreet η) where
  returned := v.returned
  connected := v.connected
  sent := v.sent
  commands := v.commands
  reports := v.reports
  holding := v.holding
  status := v.status
  natives := v.natives.discreet
  callbacks := v.callbacks

namespace Session

/-- What is picked out of a journal is the same without the notices of refusals. -/
theorem journal_discreet {α : Type} {pick : Event η → Option α}
    {pick' : Event (Discreet η) → Option α} (same : ∀ e, e.discreet?.bind pick' = pick e)
    (s : Session κ η) : s.discreet.journal.filterMap pick' = s.journal.filterMap pick := by
  simp only [journal, discreet, ← List.filterMap_reverse, List.filterMap_filterMap, same]

theorem view_discreet [Channel κ] (returned : Option Return) (s : Session κ η) :
    s.discreet.view returned = (s.view returned).discreet := by
  have mute (n : Notice) {α : Type} {pick : Event (Discreet η) → Option α}
      (none : ∀ n, pick (.notice n) = none) :
      (Event.notice n : Event η).discreet?.bind pick = Option.none := by
    unfold Event.discreet?
    cases n.isRefusal <;> simp [none]
  have sent : s.discreet.journal.sent = s.journal.sent :=
    journal_discreet (fun e => by cases e <;> first | rfl | exact mute _ fun _ => rfl) s
  have commands : s.discreet.journal.commands = s.journal.commands :=
    journal_discreet (fun e => by cases e <;> first | rfl | exact mute _ fun _ => rfl) s
  have reports : s.discreet.journal.reports = s.journal.reports :=
    journal_discreet (fun e => by cases e <;> first | rfl | exact mute _ fun _ => rfl) s
  simp only [view, View.discreet, sent, commands, reports]
  rfl

variable [Channel κ] [Host η]

theorem respond_discreet (patience : Nat) (act : Act) (s : Session κ η) :
    s.discreet.respond patience act =
      (s.respond patience act).map fun r => (r.1, r.2.discreet) := by
  cases act with
  | tick =>
    simp only [respond, discreet_tick, Option.map_map]
    rfl
  | call caller name params =>
    simp only [respond, discreet_call, Option.map_map]
    rfl
  | connect => simp only [respond, discreet_connect, Option.map_some]
  | disconnect context expected =>
    simp only [respond, ← discreet_disconnect, Option.map_some]
  | terminate context =>
    simp only [respond, terminate, ← discreet_disconnect, Option.map_some]

end Session

namespace Handle

/-- The handle to the session with natives that ask nothing. -/
def discreet : Handle κ η → Handle κ (Discreet η)
  | .free s => .free s.discreet
  | .inUse => .inUse

/-- The same use, with a host whose natives ask nothing. -/
def Use.discreet : Use κ η → Use κ (Discreet η)
  | .ask q => .ask q
  | .hold act => .hold act
  | .passed c h => .passed c ⟨h⟩

def Sight.discreet (sight : Sight η) : Sight (Discreet η) :=
  ⟨sight.returned, sight.view.map Session.View.discreet⟩

theorem view?_discreet [Channel κ] (h : Handle κ η) :
    h.discreet.view? = h.view?.map Session.View.discreet := by
  cases h with
  | inUse => rfl
  | free s => exact congrArg some (Session.view_discreet none s)

variable [Channel κ] [Host η]

theorem perform_discreet (patience : Nat) (s : Session κ η) (q : Native.Request) :
    perform patience s.discreet q =
      (perform patience s q).map fun r => (r.1, r.2.discreet) := by
  cases q with
  | tick =>
    simp only [perform, Session.discreet_tick, Option.map_map]
    rfl
  | call caller name params => exact Session.discreet_call patience caller name params s
  | terminate context =>
    simp only [perform, Session.terminate, ← Session.discreet_disconnect, Option.map_some]
  | inspect => rfl

/-- A use comes to the same whether natives ask or not. -/
theorem useBy_discreet {attendant : Attendant κ η} {other : Attendant κ (Discreet η)}
    (refuses : attendant.Refuses) (refuses' : other.Refuses) (patience : Nat) (u : Use κ η)
    (h : Handle κ η) : useBy other patience u.discreet h.discreet =
      (useBy attendant patience u h).map fun r => (r.1, r.2.discreet) := by
  cases h with
  | inUse => cases u <;> rfl
  | free s =>
    have lent : s.discreet.setLent true = (s.setLent true).discreet := rfl
    cases u with
    | ask q =>
      simp only [Use.discreet, discreet, useBy_ask refuses, useBy_ask refuses', lent,
        perform_discreet, Option.map_map]
      rfl
    | hold act =>
      simp only [Use.discreet, discreet, useBy_hold refuses, useBy_hold refuses', lent,
        Session.respond_discreet, Option.map_map]
      rfl
    | passed c h => rfl

/-- One use after the other comes to the same whether natives ask or not. -/
theorem runBy_discreet {attendant : Attendant κ η} {other : Attendant κ (Discreet η)}
    (refuses : attendant.Refuses) (refuses' : other.Refuses) (patience : Nat)
    (uses : List (Use κ η)) (h : Handle κ η) :
    runBy other patience (uses.map Use.discreet) h.discreet =
      (runBy attendant patience uses h).map fun r => (r.1.map Sight.discreet, r.2.discreet) := by
  induction uses generalizing h with
  | nil => rfl
  | cons u uses ih =>
    simp only [List.map_cons, runBy, useBy_discreet refuses refuses']
    rcases useBy attendant patience u h with _ | ⟨ret, t⟩
    · rfl
    · simp only [Option.map_some, Option.bind_some, ih, Option.map_map, view?_discreet]
      rfl

/-- Whatever is asked of the handle from inside a session that is lent out is refused: there is no
tick, a call has no value, nothing is ended and nothing told, and the session is as it was but for a
notice; a native that asks comes to what it comes to when it is refused. Natives that run while the
host uses the handle of a new session are always inside such a session: each use comes to what it
would if they were turned away without a look at the handle.
Whatever the host does, it gives back the same, and all else that is seen after each use is the
same, as with natives that return the same without asking; so is the session in the end, but for the
notices of refusals. And the handle is free after the last use: the next request is served on the
session. -/
theorem reentry_refused (patience : Nat) (settings : SessionSettings) (listener : Listener)
    (channel : κ) (host : η) (uses : List (Use κ η)) :
    (∀ (attendant : Attendant κ η) (n : Nat) (s : Session κ η), s.lent = true →
      s.turnTo (serveBy attendant n) .tick = some (false, s.note .reentrantTick) ∧
      (∀ caller name params, s.turnTo (serveBy attendant n) (.call caller name params) =
        some (none, s.note (.reentrantCall name))) ∧
      (∀ context, s.turnTo (serveBy attendant n) (.terminate context) =
        some ((), s.note .reentrantTerminate)) ∧
      s.turnTo (serveBy attendant n) .inspect = some (none, s) ∧
      ∀ script, s.attend (serveBy attendant n) script = some (script.refuse.result,
        { s with host := script.refuse.host }.noteAll
          (script.refuse.asked.flatMap Session.refusalNotices))) ∧
    run patience uses (.free (.make settings listener channel host)) =
      runBy turnAway patience uses (.free (.make settings listener channel host)) ∧
    run patience (uses.map Use.discreet)
        (.free (.make settings listener channel (⟨host⟩ : Discreet η))) =
      (run patience uses (.free (.make settings listener channel host))).map
        (fun r => (r.1.map Sight.discreet, r.2.discreet)) ∧
    ∀ sights h, run patience uses (.free (.make settings listener channel host)) =
      some (sights, h) → ∃ s, h = .free s ∧ s.lent = false ∧
        ∀ (more : Nat) (q : Native.Request), serve more q h =
          (perform more (s.setLent true) q).map fun r => ⟨r.1, [], .free (r.2.setLent false)⟩ := by
  refine ⟨fun attendant n s lent => ?_, ?_, ?_, ?_⟩
  · have refused := s.turnTo_lent (refuses_serveBy attendant n) lent
    exact ⟨refused .tick, fun caller name params => refused (.call caller name params),
      fun context => refused (.terminate context), refused .inspect,
      fun script => Session.attend_lent (refuses_serveBy attendant n) script lent⟩
  · exact runBy_congr (refuses_inner patience) refuses_turnAway patience uses _
  · rw [Session.discreet_make]
    exact runBy_discreet (refuses_inner patience) (refuses_inner patience) patience uses
      (.free (.make settings listener channel host))
  · intro sights h used
    have idle := Session.lent_make settings listener channel host
    obtain ⟨s, rfl, idle⟩ := runBy_free (refuses_inner patience) idle used
    exact ⟨s, rfl, idle, fun more q => serveBy_free (refuses_inner more) more q s⟩

/-- The refusals that the session in the handle has noted. -/
def refusals : Handle κ η → List Notice
  | .free s => s.journal.notices.filter Notice.isRefusal
  | .inUse => []

/-- Natives that ask for a tick, for a call and for the end. -/
def meddler : Scripted.Catalog where
  natives := [("Tick", .ask .tick), ("Call", .ask (.call 0 "OnGameModeInit" [])),
    ("End", .ask (.terminate "native"))]

/-- A runtime that looks these natives up. It invokes the first in a tick, the last while the host
waits for it in the handshake, and the other while the host waits for seven. -/
def nosy : List Scripted.Item :=
  [.frame ⟨Opcode.registerCall, Utf8.encode "OnGameModeInit" ++ [0]⟩,
    .frame ⟨Opcode.findNative, [1, 0] ++ Utf8.encode "Tick" ++ [0]⟩,
    .frame ⟨Opcode.findNative, [1, 0] ++ Utf8.encode "Call" ++ [0]⟩,
    .frame ⟨Opcode.findNative, [1, 0] ++ Utf8.encode "End" ++ [0]⟩,
    .frame ⟨Opcode.invokeNative, [1, 0, 0, 0, 0, 0]⟩, .frame ⟨Opcode.start, [2]⟩,
    .frame ⟨Opcode.invokeNative, [1, 0, 2, 0, 0, 0]⟩, .frame ⟨Opcode.response, []⟩, .nothing,
    .frame ⟨Opcode.invokeNative, [1, 0, 1, 0, 0, 0]⟩,
    .frame ⟨Opcode.response, [1, 7, 0, 0, 0]⟩]

/-- The host's script begins before the runtime comes; then the host ticks, and calls again. -/
def chores : List (Use Scripted.Wire Scripted.Catalog) :=
  [.ask (.call 0 "OnGameModeInit" []), .ask .tick, .ask (.call 0 "OnGameModeInit" [])]

/-- The handle to a new session with these natives and this runtime. -/
def meddled : Handle Scripted.Wire Scripted.Catalog :=
  .free (.make {} .full { peers := [.visit nosy] } meddler)

/-- Each native asks once and is refused. The host gets its seven, as it would without the asking,
and may use the handle again. -/
theorem reentry_refused_meddler : ∃ sights s,
    run 9 chores meddled = some (sights, .free s) ∧
    sights.map Sight.returned = [.answer (.call 0 "OnGameModeInit" []) none, .answer .tick true,
      .answer (.call 0 "OnGameModeInit" []) (some 7)] ∧
    refusals (.free s) = [.reentrantTick, .reentrantTerminate, .reentrantCall "OnGameModeInit"] ∧
    runBy turnAway 9 chores meddled = some (sights, .free s) ∧
    run 9 (chores.map Use.discreet) (.free (.make {} .full { peers := [.visit nosy] }
        (⟨meddler⟩ : Discreet Scripted.Catalog))) =
      some (sights.map Sight.discreet, .free s.discreet) ∧
    (s.setLent true).turnTo (serve 9) .tick =
      some (false, (s.setLent true).note .reentrantTick) ∧
    serve 9 .inspect (.free s) = some ⟨some s.isConnected, [], .free s⟩ := by
  have glance : (run 9 chores meddled).map (fun r => (r.1.map Sight.returned, r.2.refusals)) =
      some ([.answer (.call 0 "OnGameModeInit" []) none, .answer .tick true,
          .answer (.call 0 "OnGameModeInit" []) (some 7)],
        [.reentrantTick, .reentrantTerminate, .reentrantCall "OnGameModeInit"]) := by
    decide +kernel
  obtain ⟨⟨sights, h⟩, ran, seen⟩ := Option.map_eq_some_iff.mp glance
  obtain ⟨returned, refused⟩ := Prod.mk.inj seen
  obtain ⟨nested, away, same, free⟩ :=
    reentry_refused 9 {} .full ({ peers := [.visit nosy] } : Scripted.Wire) meddler chores
  obtain ⟨s, rfl, idle, served⟩ := free sights h ran
  refine ⟨sights, s, ran, returned, refused, away.symm.trans ran, ?_,
    (nested (inner 9) 9 (s.setLent true) rfl).1, ?_⟩
  · rw [same, show run 9 chores (.free _) = _ from ran, Option.map_some]
    rfl
  · have given : (s.setLent true).setLent false = s := Session.setLent_idle idle
    simp only [served, perform, Option.map_some, given]
    rfl

end Handle

end HostLink
