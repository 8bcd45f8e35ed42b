import HostLink.Session.Drive

/-!
# HostLink.Session.Patience

More patience never changes an outcome. A wait is extended by another that has all its outcomes;
serving and polling keep that relation, and so a tick or a call that has come to an end comes to the
same end however much longer it might have gone on (`tick_le`, `call_le`).
-/

namespace HostLink.Session

variable {κ η : Type} [Channel κ]

/-- Every outcome of `a` is an outcome of `b`. -/
def Wait.ExtendedBy (a b : Wait κ η) : Prop :=
  ∀ s r, a s = some r → b s = some r

namespace Wait.ExtendedBy

variable {a b : Wait κ η}

theorem deliverInit (h : ExtendedBy a b) {s t : Session κ η}
    (run : s.deliverInit a = some t) : s.deliverInit b = some t := by
  unfold Session.deliverInit at run ⊢
  by_cases busy : s.delivering = true
  · rw [if_pos busy] at run ⊢
    exact run
  · rw [if_neg busy] at run ⊢
    dsimp only at run ⊢
    split at run
    · exact run
    · exact run
    · split at run
      · cases run
      · rename_i heq
        rw [h _ _ heq]
        exact run

variable [Host η]

theorem serveStart (h : ExtendedBy a b) {mode : StartMode} {s t : Session κ η}
    (run : s.serveStart a mode = some t) : s.serveStart b mode = some t := by
  unfold Session.serveStart at run ⊢
  cases mode with
  | waitForHost => exact run
  | restart => exact run
  | unknown mode => exact run
  | deliverInit =>
    dsimp only at run ⊢
    split at run <;> rename_i begun
    · rw [if_pos begun]
      exact h.deliverInit run
    · rw [if_neg begun]
      exact run

theorem serve (h : ExtendedBy a b) {command : Command} {s t : Session κ η}
    (run : s.serve a command = some t) : s.serve b command = some t := by
  cases command with
  | start mode => exact h.serveStart run
  | _ => exact run

theorem serveFrame (h : ExtendedBy a b) {f : Frame} {s : Session κ η} {r : Step × Session κ η}
    (run : s.serveFrame a f = some r) : s.serveFrame b f = some r := by
  unfold Session.serveFrame at run ⊢
  split at run
  · exact run
  · exact run
  · split at run
    · cases run
    · rename_i heq
      rw [h.serve heq]
      exact run

theorem poll (h : ExtendedBy a b) {s : Session κ η} {r : Step × Session κ η}
    (run : s.poll a = some r) : s.poll b = some r := by
  unfold Session.poll at run ⊢
  by_cases lost : (s.status.isUp && !Channel.isConnected s.channel) = true
  · rw [if_pos lost] at run ⊢
    exact run
  · rw [if_neg lost] at run ⊢
    split at run
    · exact run
    · split at run
      · exact run
      · exact run
      · exact h.serveFrame run

end Wait.ExtendedBy

variable [Host η]

/-- An answer that has been awaited is not changed by more patience. -/
theorem awaitReply_succ (patience : Nat) :
    Wait.ExtendedBy (awaitReply patience : Wait κ η) (awaitReply (patience + 1)) := by
  induction patience with
  | zero => intro s r run; cases run
  | succ n ih =>
    intro s r run
    unfold awaitReply at run ⊢
    split at run
    · cases run
    · rename_i heq
      rw [ih.poll heq]
      exact ih _ _ run
    · rename_i heq
      rw [ih.poll heq]
      exact ih _ _ run
    · rename_i heq
      rw [ih.poll heq]
      exact run
    · rename_i heq
      rw [ih.poll heq]
      exact run

/-- Draining that has come to an end is not changed by more patience. -/
theorem drain_succ {patience : Nat} {s t : Session κ η} (run : s.drain patience = some t) :
    s.drain (patience + 1) = some t := by
  induction patience generalizing s with
  | zero => cases run
  | succ n ih =>
    unfold drain at run ⊢
    split at run
    · cases run
    · rename_i heq
      rw [(awaitReply_succ n).poll heq]
      exact ih run
    · rename_i heq
      rw [(awaitReply_succ n).poll heq]
      exact ih run
    · rename_i heq
      rw [(awaitReply_succ n).poll heq]
      exact run
    · rename_i heq
      rw [(awaitReply_succ n).poll heq]
      exact run

/-- A longer wait extends a shorter one. -/
theorem awaitReply_le {few many : Nat} (h : few ≤ many) :
    Wait.ExtendedBy (awaitReply few : Wait κ η) (awaitReply many) := by
  induction h with
  | refl => exact fun _ _ run => run
  | step _ ih => exact fun s r run => awaitReply_succ _ s r (ih s r run)

/-- A tick that has come to an end is the same with more patience. -/
theorem tick_le {few many : Nat} (h : few ≤ many) {s t : Session κ η}
    (run : s.tick few = some t) : s.tick many = some t := by
  induction h with
  | refl => exact run
  | step _ ih => exact drain_succ ih

/-- A call that has come to an end is the same with more patience. -/
theorem call_le {few many : Nat} (h : few ≤ many) {caller : UInt16} {name : String}
    {params : List Callback.Param} {s : Session κ η} {r : Option Int32 × Session κ η}
    (run : s.call few caller name params = some r) : s.call many caller name params = some r := by
  unfold call at run ⊢
  split at run
  · exact run
  · split at run
    · exact run
    · exact run
    · split at run
      · cases run
      · rename_i heq
        rw [awaitReply_le h _ _ heq]
        exact run

end HostLink.Session
