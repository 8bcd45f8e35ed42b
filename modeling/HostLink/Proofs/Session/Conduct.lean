import HostLink.Proofs.Session.Gate
import HostLink.Proofs.Session.Served

/-!
# HostLink.Proofs.Session.Conduct

What a session does at one time: it looks at the channel, lets a runtime in, ends a connection,
serves a frame, sends a heartbeat or a call. A relation between sessions that contains each of these
and composes is a *conduct* (`Conduct`). It then contains every whole operation that comes to an
end, however its waits were nested:

* `Conduct.poll`, `Conduct.awaitReply`, `Conduct.drain`, `Conduct.tick`, `Conduct.call`.
* `Conduct.awaitReply_answer` — an answer, with the look that found it.

The loops of a session are opened here and nowhere else.
-/

namespace HostLink.Session

variable {κ η : Type} [Channel κ] [Host η]

/-- A frame may come in. -/
def Tuned (s : Session κ η) : Prop :=
  Channel.isConnected s.channel = true ∨ s.status.isUp = true

/-- A relation that contains everything a session does at one time, and composes. -/
structure Conduct (R : Session κ η → Session κ η → Prop) : Prop where
  refl (s : Session κ η) : R s s
  trans {s t u : Session κ η} : R s t → R t u → R s u
  prepared {s : Session κ η} (lost : Channel.isConnected s.channel = false) : R s s.prepare.2
  alone {s : Session κ η} {c : κ} (h : Channel.connect s.channel = (.ok false, c)) :
    R s { s with channel := c }
  failed {s : Session κ η} {c : κ} {e : Fault} (h : Channel.connect s.channel = (.error e, c)) :
    R s ({ s with channel := c }.note (.connectFailed e))
  entered {s : Session κ η} {c : κ} (down : s.status.isUp = false)
    (h : Channel.connect s.channel = (.ok true, c)) : R s (s.takeIn c)
  ended {s : Session κ η} {context : Option String} {expected : Bool}
    (up : s.status.isUp = true) : R s (s.disconnect context expected)
  idle {s : Session κ η} {c : κ} {r : Received} (tuned : s.Tuned)
    (h : Channel.receive s.channel = (r, c)) (bare : ∀ f, r ≠ .frame f) :
    R s { s with channel := c }
  served {s t : Session κ η} {c : κ} {f : Frame} {step : Step} (tuned : s.Tuned)
    (h : Channel.receive s.channel = (.frame f, c))
    (served : Served f ({ s with channel := c }.hear f) step t) : R s t
  /-- A delivery of the init callback counts as a whole, with the wait inside it. -/
  asked {s u : Session κ η} {c : κ} {f : Frame} {payload : Bytes} (tuned : s.Tuned)
    (h : Channel.receive s.channel = (.frame f, c))
    (asks : Asks f payload ({ s with channel := c }.hear f))
    (waited : R (({ s with channel := c }.hear f).asking payload) u) (reply : Option Bytes) :
    R s (u.resumed reply)
  strayed (size : Nat) (s : Session κ η) : R s (s.note (.strayReply size))
  beaten {s : Session κ η} (connected : s.isConnected = true)
    (allowed : s.status.allows .heartbeat = true) : R s (s.setHolding false).beat
  observed (name : String) (s : Session κ η) : R s (s.observe name)
  gated (name : String) (s : Session κ η) : R s (s.gate name).2
  unforwarded (name : String) (e : Fault) (s : Session κ η) : R s (s.note (.notForwarded name e))
  called {r s : Session κ η} {caller : UInt16} {name : String} {params : List Callback.Param}
    {payload : Bytes} (opened : r.gate name = (true, s))
    (written : s.callPayload caller name params = .ok (some payload)) :
    R s (s.send Opcode.publicCall payload)
  silent (name : String) (reply : Option Bytes) (s : Session κ η) : R s (s.noteSilence name reply)

/-- A wait all of whose outcomes are in a relation. -/
def Wait.Keeps (R : Session κ η → Session κ η → Prop) (await : Wait κ η) : Prop :=
  ∀ {s t : Session κ η} {reply : Option Bytes}, await s = some (reply, t) → R s t

namespace Conduct

variable {R : Session κ η → Session κ η → Prop}

/-- Without a connection, a try to connect leads nowhere, or it lets a runtime in. -/
theorem connect_cases (conduct : Conduct R) {s : Session κ η}
    (lost : Channel.isConnected s.channel = false) :
    ((s.connect).1 = false ∧ R s s.connect.2) ∨
      ∃ c, R s s.prepare.2 ∧ s.prepare.2.status = s.status ∧
        Channel.connect s.prepare.2.channel = (.ok true, c) ∧
        s.connect = (true, s.prepare.2.takeIn c) := by
  have prepared := conduct.prepared lost
  unfold connect
  rw [if_neg (by simp [lost])]
  split
  · rename_i u heq
    rw [heq] at prepared
    exact .inl ⟨rfl, prepared⟩
  · rename_i u heq
    rw [heq] at prepared ⊢
    split
    · rename_i c came
      have same : u.status = s.status := by
        have still := still_prepare s
        rw [heq] at still
        exact still.status
      exact .inr ⟨c, prepared, same, came, rfl⟩
    · rename_i c nobody
      exact .inl ⟨rfl, conduct.trans prepared (conduct.alone nobody)⟩
    · rename_i e c failed
      exact .inl ⟨rfl, conduct.trans prepared (conduct.failed failed)⟩

/-- Connecting, where the channel is not lost under a link that is up. -/
theorem connect (conduct : Conduct R) {s : Session κ η}
    (sound : Channel.isConnected s.channel = true ∨ s.status.isUp = false) :
    R s s.connect.2 ∧ ((s.connect).1 = true → s.connect.2.Tuned) := by
  by_cases connected : Channel.isConnected s.channel = true
  · have eq : s.connect = (true, s) := by simp [Session.connect, connected]
    rw [eq]
    exact ⟨conduct.refl s, fun _ => .inl connected⟩
  · have lost := eq_false_of_ne_true connected
    have down : s.status.isUp = false := sound.resolve_left connected
    rcases conduct.connect_cases lost with ⟨alone, led⟩ | ⟨c, prepared, same, came, eq⟩
    · exact ⟨led, fun tuned => by rw [alone] at tuned; cases tuned⟩
    · rw [← same] at down
      have entered : R s.prepare.2 (s.prepare.2.takeIn c) := conduct.entered down came
      have up := (entered_takeIn c s.prepare.2).isUp
      rw [eq]
      dsimp only
      exact ⟨conduct.trans prepared entered, fun _ => Or.inr up⟩

theorem disconnect (conduct : Conduct R) (context : Option String) (expected : Bool)
    (s : Session κ η) : R s (s.disconnect context expected) := by
  cases up : s.status.isUp with
  | true => exact conduct.ended up
  | false =>
    have eq : s.disconnect context expected = s := by simp [Session.disconnect, up]
    rw [eq]
    exact conduct.refl s

theorem took (conduct : Conduct R) {await : Wait κ η} (wait : await.Keeps R) {s t : Session κ η}
    {step : Step} (took : Took await s step t) (tuned : s.Tuned) : R s t := by
  cases took with
  | nothing h => exact conduct.idle tuned h nofun
  | dead h => exact conduct.trans (conduct.idle tuned h nofun) (conduct.disconnect _ _ _)
  | served h served => exact conduct.served tuned h served
  | asked h asks waited => exact conduct.asked tuned h asks (wait waited) _

theorem poll (conduct : Conduct R) {await : Wait κ η} (wait : await.Keeps R) {s t : Session κ η}
    {step : Step} (run : s.poll await = some (step, t)) : R s t := by
  rcases poll_cases run with ⟨up, -, rfl⟩ | ⟨kept, ⟨alone, -⟩ | ⟨u, connected, took⟩⟩
  · exact conduct.ended up
  · have led := (conduct.connect kept).1
    rw [alone] at led
    exact led
  · obtain ⟨led, tuned⟩ := conduct.connect kept
    rw [connected] at led tuned
    exact conduct.trans led (conduct.took wait took (tuned rfl))

theorem awaitReply (conduct : Conduct R) (patience : Nat) :
    (Session.awaitReply patience : Wait κ η).Keeps R := by
  induction patience with
  | zero => intro s t reply run; cases run
  | succ n ih =>
    intro s t reply run
    unfold Session.awaitReply at run
    split at run
    · cases run
    · rename_i u polled
      exact conduct.trans (conduct.poll ih polled) (ih run)
    · rename_i u polled
      exact conduct.trans (conduct.poll ih polled) (ih run)
    · rename_i payload u polled
      cases run
      exact conduct.poll ih polled
    · rename_i u polled
      cases run
      exact conduct.poll ih polled

/-- A wait that ends with an answer has come to a look that found it. -/
theorem awaitReply_answer (conduct : Conduct R) {patience : Nat} {s t : Session κ η}
    {payload : Bytes} (run : Session.awaitReply patience s = some (some payload, t)) :
    ∃ (u : Session κ η) (await : Wait κ η), R s u ∧ u.Tuned ∧ Took await u (.answer payload) t := by
  induction patience generalizing s with
  | zero => cases run
  | succ n ih =>
    have later {step : Step} {u : Session κ η}
        (polled : s.poll (Session.awaitReply n) = some (step, u))
        (rest : Session.awaitReply n u = some (some payload, t)) :
        ∃ (v : Session κ η) (await : Wait κ η), R s v ∧ v.Tuned ∧
          Took await v (.answer payload) t := by
      obtain ⟨v, await, led, found⟩ := ih rest
      exact ⟨v, await, conduct.trans (conduct.poll (conduct.awaitReply n) polled) led, found⟩
    rw [Session.awaitReply] at run
    split at run
    · cases run
    · rename_i u polled
      exact later polled run
    · rename_i u polled
      exact later polled run
    · rename_i answer u polled
      cases run
      rcases poll_cases polled with ⟨-, dead, -⟩ | ⟨kept, ⟨-, dead⟩ | ⟨u, connected, took⟩⟩
      · cases dead
      · cases dead
      · obtain ⟨led, tuned⟩ := conduct.connect kept
        rw [connected] at led tuned
        exact ⟨u, _, led, tuned rfl, took⟩
    · cases run

theorem drain (conduct : Conduct R) {patience : Nat} {s t : Session κ η}
    (run : s.drain patience = some t) : R s t := by
  induction patience generalizing s with
  | zero => cases run
  | succ n ih =>
    have wait : (Session.awaitReply n : Wait κ η).Keeps R := conduct.awaitReply n
    unfold Session.drain at run
    split at run
    · cases run
    · rename_i u polled
      exact conduct.trans (conduct.poll wait polled) (ih run)
    · rename_i payload u polled
      have noted : R u (u.note (.strayReply payload.length)) := conduct.strayed _ u
      exact conduct.trans (conduct.trans (conduct.poll wait polled) noted) (ih run)
    · rename_i u polled
      cases run
      exact conduct.poll wait polled
    · rename_i u polled
      cases run
      exact conduct.poll wait polled

theorem tick (conduct : Conduct R) {patience : Nat} {s t : Session κ η}
    (run : s.tick patience = some t) : R s t := by
  have drained : R s.heartbeat t := conduct.drain run
  unfold heartbeat at drained
  split at drained
  · rename_i due
    obtain ⟨connected, allowed⟩ := Bool.and_eq_true_iff.mp due
    exact conduct.trans (conduct.beaten connected allowed) drained
  · exact drained

theorem call (conduct : Conduct R) {patience : Nat} {caller : UInt16} {name : String}
    {params : List Callback.Param} {s t : Session κ η} {value : Option Int32}
    (run : s.call patience caller name params = some (value, t)) : R s t := by
  have begun := conduct.trans (conduct.observed name s) (conduct.gated name _)
  unfold Session.call at run
  split at run
  · rename_i u heq
    cases run
    rw [heq] at begun
    exact begun
  · rename_i u heq
    rw [heq] at begun
    split at run
    · cases run
      exact conduct.trans begun (conduct.unforwarded _ _ u)
    · cases run
      exact begun
    · rename_i payload written
      split at run
      · cases run
      · rename_i reply v waited
        cases run
        have asked := conduct.trans begun (conduct.called heq written)
        have answered := conduct.trans asked (conduct.awaitReply patience waited)
        exact conduct.trans answered (conduct.silent _ _ v)

end Conduct

end HostLink.Session
