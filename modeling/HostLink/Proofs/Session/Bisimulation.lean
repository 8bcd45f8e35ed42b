import HostLink.Proofs.Session.Ending

/-!
# HostLink.Proofs.Session.Bisimulation

Two sessions, maybe over different channels, of which each does what the other does. A look of one
session may have to wait until the other has served some frames that nobody learns of (`Detour`);
then both looks come to the same, or both depend on a wait alone (`Matched`). A relation that
contains with two sessions what either comes to is a bisimulation (`Bisimulation`): then whatever
the host does comes to an end on both sides or on none, gives the same, and leaves related sessions.

* `Bisimulation.awaitReply`, `Bisimulation.drain`, `Bisimulation.respond` — from one side to the
  other.
* `Bisimulation.flip` — and back.
-/

namespace HostLink.Session

variable {κ κ' η : Type} [Channel κ] [Channel κ'] [Host η]

/-- Whatever waits would do, so many looks that serve lead from one session to another. -/
inductive Detour : Nat → Session κ η → Session κ η → Prop where
  | refl (s : Session κ η) : Detour 0 s s
  | served {k : Nat} {s t u : Session κ η}
      (h : ∀ await : Wait κ η, s.poll await = some (.served, t)) (rest : Detour k t u) :
      Detour (k + 1) s u

namespace Detour

variable {k : Nat} {s t : Session κ η}

theorem awaitReply (detour : Detour k s t) (patience : Nat) :
    Session.awaitReply (patience + k) s = Session.awaitReply patience t := by
  induction detour with
  | refl s => rfl
  | @served k s t u h _ ih =>
    rw [← Nat.add_assoc, awaitReply_succ_eq, h]
    exact ih

theorem drain (detour : Detour k s t) (patience : Nat) :
    s.drain (patience + k) = t.drain patience := by
  induction detour with
  | refl s => rfl
  | @served k s t u h _ ih =>
    rw [← Nat.add_assoc, drain_succ_eq, h]
    exact ih

end Detour

variable {R : Session κ η → Session κ' η → Prop}

/-- Two looks come to the same at once, or both serve a frame and need a wait for that. -/
inductive Matched (R : Session κ η → Session κ' η → Prop)
    (look : Wait κ η → Option (Step × Session κ η))
    (look' : Wait κ' η → Option (Step × Session κ' η)) : Prop where
  | now {step : Step} {t : Session κ η} {t' : Session κ' η}
      (h : ∀ await, look await = some (step, t)) (h' : ∀ await, look' await = some (step, t'))
      (related : R t t') : Matched R look look'
  | asks {u : Session κ η} {u' : Session κ' η}
      (h : ∀ await, look await = (await u).map fun r => (.served, r.2.resumed r.1))
      (h' : ∀ await, look' await = (await u').map fun r => (.served, r.2.resumed r.1))
      (related : R u u') : Matched R look look'

/-- A relation that contains with two sessions what either comes to by anything that is done at one
time, and that shows in nothing that the host is given. -/
structure Bisimulation (R : Session κ η → Session κ' η → Prop) : Prop where
  polls {s : Session κ η} {s' : Session κ' η} : R s s' → ∃ k u k' u',
    Detour k s u ∧ Detour k' s' u' ∧ Matched R u.poll u'.poll
  resumed {s : Session κ η} {s' : Session κ' η} (reply : Option Bytes) : R s s' →
    R (s.resumed reply) (s'.resumed reply)
  strayed {s : Session κ η} {s' : Session κ' η} (size : Nat) : R s s' →
    R (s.note (.strayReply size)) (s'.note (.strayReply size))
  beaten {s : Session κ η} {s' : Session κ' η} : R s s' → R s.heartbeat s'.heartbeat
  observed {s : Session κ η} {s' : Session κ' η} (name : String) : R s s' →
    R (s.observe name) (s'.observe name)
  gated {s : Session κ η} {s' : Session κ' η} (name : String) : R s s' →
    (s'.gate name).1 = (s.gate name).1 ∧ R (s.gate name).2 (s'.gate name).2
  written {s : Session κ η} {s' : Session κ' η} (caller : UInt16) (name : String)
    (params : List Callback.Param) : R s s' →
    s'.callPayload caller name params = s.callPayload caller name params
  unforwarded {s : Session κ η} {s' : Session κ' η} (name : String) (e : Fault) : R s s' →
    R (s.note (.notForwarded name e)) (s'.note (.notForwarded name e))
  called {s : Session κ η} {s' : Session κ' η} (payload : Bytes) : R s s' →
    R (s.send Opcode.publicCall payload) (s'.send Opcode.publicCall payload)
  silent {s : Session κ η} {s' : Session κ' η} (name : String) (reply : Option Bytes) : R s s' →
    R (s.noteSilence name reply) (s'.noteSilence name reply)
  connected {s : Session κ η} {s' : Session κ' η} : R s s' →
    (s'.connect).1 = (s.connect).1 ∧ R s.connect.2 s'.connect.2
  ended {s : Session κ η} {s' : Session κ' η} (context : Option String) (expected : Bool) :
    R s s' → R (s.disconnect context expected) (s'.disconnect context expected)

/-- What is given back to the host. -/
inductive Return where
  | nothing
  /-- Whether a runtime is connected. -/
  | connected (there : Bool)
  /-- The value of a call. -/
  | value (v : Option Int32)
  deriving DecidableEq, Repr

/-- What is given back for what the host did, and the session after it; `none` when the patience ran
out. -/
def respond [Invoker κ η] (patience : Nat) (act : Act) (s : Session κ η) :
    Option (Return × Session κ η) :=
  match act with
  | .tick => (s.tick patience).map (.nothing, ·)
  | .call caller name params =>
    (s.call patience caller name params).map fun r => (.value r.1, r.2)
  | .connect => some (.connected (s.connect).1, s.connect.2)
  | .disconnect context expected => some (.nothing, s.disconnect context expected)
  | .terminate context => some (.nothing, s.terminate context)

/-- The session is the one after the host's deed. -/
theorem respond_session (patience : Nat) (act : Act) (s : Session κ η) :
    (s.respond patience act).map Prod.snd = s.perform patience act := by
  cases act with
  | tick =>
    simp only [respond, perform]
    cases s.tick patience <;> rfl
  | call caller name params =>
    simp only [respond, perform]
    cases s.call patience caller name params <;> rfl
  | connect => rfl
  | disconnect context expected => rfl
  | terminate context => rfl

omit [Channel κ] [Channel κ'] [Host η] in
theorem Matched.flip {look : Wait κ η → Option (Step × Session κ η)}
    {look' : Wait κ' η → Option (Step × Session κ' η)} (matched : Matched R look look') :
    Matched (fun s' s => R s s') look' look := by
  cases matched with
  | now h h' related => exact .now h' h related
  | asks h h' related => exact .asks h' h related

namespace Bisimulation

variable {s : Session κ η} {s' : Session κ' η}

theorem flip (bisim : Bisimulation R) : Bisimulation fun (s' : Session κ' η) s => R s s' where
  polls related := by
    obtain ⟨k, u, k', u', detour, detour', matched⟩ := bisim.polls related
    exact ⟨k', u', k, u, detour', detour, matched.flip⟩
  resumed := bisim.resumed
  strayed := bisim.strayed
  beaten := bisim.beaten
  observed := bisim.observed
  gated name related := ⟨(bisim.gated name related).1.symm, (bisim.gated name related).2⟩
  written caller name params related := (bisim.written caller name params related).symm
  unforwarded := bisim.unforwarded
  called := bisim.called
  silent := bisim.silent
  connected related := ⟨(bisim.connected related).1.symm, (bisim.connected related).2⟩
  ended := bisim.ended

/-- With this patience, what a wait comes to on the one side it comes to on the other as well. -/
def Waits (R : Session κ η → Session κ' η → Prop) (patience : Nat) : Prop :=
  ∀ {s : Session κ η} {s' : Session κ' η} {reply : Option Bytes} {t : Session κ η}, R s s' →
    Session.awaitReply patience s = some (reply, t) →
    ∃ m t', Session.awaitReply m s' = some (reply, t') ∧ R t t'

/-- What a look comes to, the matching one comes to. -/
theorem look (bisim : Bisimulation R) {patience : Nat} (waits : Waits R patience)
    (matched : Matched R s.poll s'.poll) {step : Step} {t : Session κ η}
    (run : s.poll (Session.awaitReply patience) = some (step, t)) :
    ∃ m t', s'.poll (Session.awaitReply m) = some (step, t') ∧ R t t' := by
  cases matched with
  | @now step' u u' h h' related =>
    rw [h] at run
    cases run
    exact ⟨0, u', h' _, related⟩
  | @asks u u' h h' related =>
    rw [h] at run
    obtain ⟨⟨reply, v⟩, waited, eq⟩ := Option.map_eq_some_iff.mp run
    cases eq
    obtain ⟨m, v', waited', related'⟩ := waits related waited
    refine ⟨m, v'.resumed reply, ?_, bisim.resumed reply related'⟩
    rw [h', waited']
    rfl

theorem awaitReply (bisim : Bisimulation R) (patience : Nat) : Waits R patience := by
  induction patience with
  | zero => intro s s' reply t _ run; cases run
  | succ n ih =>
    intro s s' reply t related run
    obtain ⟨k, u, k', u', detour, detour', matched⟩ := bisim.polls related
    have run : Session.awaitReply (n + 1) u = some (reply, t) := by
      rw [← detour.awaitReply]
      exact awaitReply_le (Nat.le_add_right _ k) s _ run
    rw [awaitReply_succ_eq] at run
    obtain ⟨⟨step, v⟩, polled, run⟩ := Option.bind_eq_some_iff.mp run
    obtain ⟨m, v', polled', related⟩ := bisim.look ih matched polled
    cases stops : step.reply? with
    | some answer =>
      simp only [stops, Option.elim] at run
      cases run
      refine ⟨m + 1 + k', v', ?_, related⟩
      rw [detour'.awaitReply, awaitReply_succ_eq, polled']
      simp only [Option.bind_some, stops, Option.elim]
    | none =>
      simp only [stops, Option.elim] at run
      obtain ⟨m', t', rest, last⟩ := ih related run
      refine ⟨max m m' + 1 + k', t', ?_, last⟩
      rw [detour'.awaitReply, awaitReply_succ_eq,
        (awaitReply_le (Nat.le_max_left m m')).poll polled']
      simp only [Option.bind_some, stops, Option.elim]
      exact awaitReply_le (Nat.le_max_right m m') _ _ rest

/-- What comes in is served on both sides, to the end of either. -/
theorem drain (bisim : Bisimulation R) {patience : Nat} {t : Session κ η} (related : R s s')
    (run : s.drain patience = some t) : ∃ m t', s'.drain m = some t' ∧ R t t' := by
  induction patience generalizing s s' with
  | zero => cases run
  | succ n ih =>
    obtain ⟨k, u, k', u', detour, detour', matched⟩ := bisim.polls related
    have run : u.drain (n + 1) = some t := by
      rw [← detour.drain]
      exact drain_le (Nat.le_add_right _ k) run
    rw [drain_succ_eq] at run
    obtain ⟨⟨step, v⟩, polled, run⟩ := Option.bind_eq_some_iff.mp run
    obtain ⟨m, v', polled', related⟩ := bisim.look (bisim.awaitReply n) matched polled
    have goes {w : Session κ η} {w' : Session κ' η} (on : step.onward? v = some w)
        (on' : step.onward? v' = some w') (related : R w w') :
        ∃ m t', s'.drain m = some t' ∧ R t t' := by
      simp only [on, Option.elim] at run
      obtain ⟨m', t', rest, last⟩ := ih related run
      refine ⟨max m m' + 1 + k', t', ?_, last⟩
      rw [detour'.drain, drain_succ_eq, (awaitReply_le (Nat.le_max_left m m')).poll polled']
      simp only [Option.bind_some, on', Option.elim]
      exact drain_le (Nat.le_max_right m m') rest
    have stops (on : step.onward? v = none) (on' : step.onward? v' = none) :
        ∃ m t', s'.drain m = some t' ∧ R t t' := by
      simp only [on, Option.elim] at run
      cases run
      refine ⟨m + 1 + k', v', ?_, related⟩
      rw [detour'.drain, drain_succ_eq, polled']
      simp only [Option.bind_some, on', Option.elim]
    cases step with
    | served => exact goes rfl rfl related
    | answer payload => exact goes rfl rfl (bisim.strayed payload.length related)
    | nothing => exact stops rfl rfl
    | dead => exact stops rfl rfl

theorem tick (bisim : Bisimulation R) {patience : Nat} {t : Session κ η} (related : R s s')
    (run : s.tick patience = some t) : ∃ m t', s'.tick m = some t' ∧ R t t' :=
  bisim.drain (bisim.beaten related) run

theorem call (bisim : Bisimulation R) {patience : Nat} {caller : UInt16} {name : String}
    {params : List Callback.Param} {value : Option Int32} {t : Session κ η} (related : R s s')
    (run : s.call patience caller name params = some (value, t)) :
    ∃ m t', s'.call m caller name params = some (value, t') ∧ R t t' := by
  obtain ⟨same, gated⟩ := bisim.gated name (bisim.observed name related)
  unfold Session.call at run ⊢
  rcases gate : (s.observe name).gate name with ⟨out, u⟩
  rcases gate' : (s'.observe name).gate name with ⟨out', u'⟩
  rw [gate, gate'] at same gated
  rw [gate] at run
  obtain rfl : out' = out := same
  cases out' with
  | false =>
    cases run
    exact ⟨0, u', rfl, gated⟩
  | true =>
    have written : u'.callPayload caller name params = u.callPayload caller name params :=
      bisim.written caller name params gated
    dsimp only at run ⊢
    rw [written]
    cases put : u.callPayload caller name params with
    | error e =>
      rw [put] at run
      cases run
      exact ⟨0, _, rfl, bisim.unforwarded name e gated⟩
    | ok called =>
      rw [put] at run
      cases called with
      | none =>
        cases run
        exact ⟨0, u', rfl, gated⟩
      | some payload =>
        dsimp only at run ⊢
        rcases waited : Session.awaitReply patience (u.send Opcode.publicCall payload) with
          _ | ⟨reply, v⟩
        · rw [waited] at run
          cases run
        · rw [waited] at run
          cases run
          obtain ⟨m, v', waited', related'⟩ :=
            bisim.awaitReply patience (bisim.called payload gated) waited
          refine ⟨m, v'.noteSilence name reply, ?_, bisim.silent name reply related'⟩
          rw [waited']

/-- What is given back to the host on the one side is given back on the other. -/
theorem respond (bisim : Bisimulation R) {patience : Nat} {act : Act} {ret : Return}
    {t : Session κ η} (related : R s s') (run : s.respond patience act = some (ret, t)) :
    ∃ m t', s'.respond m act = some (ret, t') ∧ R t t' := by
  cases act with
  | tick =>
    obtain ⟨u, ticked, eq⟩ := Option.map_eq_some_iff.mp run
    cases eq
    obtain ⟨m, t', ticked', related⟩ := bisim.tick related ticked
    refine ⟨m, t', ?_, related⟩
    simp only [Session.respond, ticked', Option.map_some]
  | call caller name params =>
    obtain ⟨⟨value, u⟩, called, eq⟩ := Option.map_eq_some_iff.mp run
    cases eq
    obtain ⟨m, t', called', related⟩ := bisim.call related called
    refine ⟨m, t', ?_, related⟩
    simp only [Session.respond, called', Option.map_some]
  | connect =>
    cases run
    obtain ⟨same, related⟩ := bisim.connected related
    refine ⟨0, s'.connect.2, ?_, related⟩
    rw [← same]
    rfl
  | disconnect context expected =>
    cases run
    exact ⟨0, _, rfl, bisim.ended context expected related⟩
  | terminate context =>
    cases run
    exact ⟨0, _, rfl, bisim.ended (some context) false related⟩

end Bisimulation

end HostLink.Session
