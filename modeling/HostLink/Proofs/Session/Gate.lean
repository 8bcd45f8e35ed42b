import HostLink.Proofs.Session.Quiet

/-!
# HostLink.Proofs.Session.Gate

What a call meets before it goes out. The gate is shut by the status (`gate_shut`), by the init
callback that has not been delivered, or by a runtime that is presumed paused; otherwise it is open
(`gate_open`). A call whose gate is open goes out if it can be written (`Calls`), and has no value
otherwise (`call_cases`).
-/

namespace HostLink.Session

variable {κ η : Type} [Channel κ]

/-- The session when a call has got past the status. -/
def cleared (name : String) (s : Session κ η) : Session κ η :=
  if name = s.settings.initCallback then
    { s.setHolding false with status := s.status.initDelivered }
  else s.setHolding false

theorem calm_observe (name : String) (s : Session κ η) : Calm s (s.observe name) := by
  unfold observe
  split
  · exact .of_eq rfl rfl rfl rfl rfl
  · split
    · exact .of_eq rfl rfl rfl rfl rfl
    · exact (Still.refl s).calm

theorem gate_shut {name : String} {s : Session κ η}
    (shut : (s.isConnected && s.status.allows .call) = false) : s.gate name = (false, s) := by
  simp [gate, shut]

theorem gate_cleared {name : String} {s : Session κ η}
    (allowed : (s.isConnected && s.status.allows .call) = true) :
    s.gate name =
      if (s.cleared name).status.clientInit then
        (!(s.cleared name).detector.checkCall.1,
          { s.cleared name with detector := (s.cleared name).detector.checkCall.2.1 }.noteAll
            (s.cleared name).detector.checkCall.2.2)
      else (false, s.cleared name) := by
  have eq : s.cleared name =
      if name = (s.setHolding false).settings.initCallback then
        { s.setHolding false with status := (s.setHolding false).status.initDelivered }
      else s.setHolding false := rfl
  unfold gate
  rw [if_neg (by simp [allowed]), eq]
  dsimp only
  cases init : Status.clientInit _ <;> simp

theorem cleared_allows (name : String) (s : Session κ η) :
    (s.cleared name).isConnected = s.isConnected ∧
      (s.cleared name).status.allows .call = s.status.allows .call := by
  unfold cleared
  split <;> exact ⟨rfl, rfl⟩

/-- A gate lets a call out only while it is allowed and the init callback has been delivered. -/
theorem gate_open {name : String} {s t : Session κ η} (h : s.gate name = (true, t)) :
    t.isConnected = true ∧ t.status.allows .call = true ∧ t.status.clientInit = true := by
  cases allowed : s.isConnected && s.status.allows .call with
  | false => rw [gate_shut allowed] at h; cases h
  | true =>
    rw [gate_cleared allowed] at h
    split at h
    · rename_i init
      obtain ⟨connected, call⟩ := Bool.and_eq_true_iff.mp allowed
      obtain ⟨sameLink, sameCall⟩ := cleared_allows name s
      cases congrArg Prod.snd h
      exact ⟨sameLink.trans connected, sameCall.trans call, init⟩
    · cases h

theorem calm_cleared (name : String) (s : Session κ η) : Calm s (s.cleared name) := by
  unfold cleared
  split
  · exact (still_setHolding false s).calm.trans (.of_eq rfl rfl rfl rfl rfl)
  · exact (still_setHolding false s).calm

/-- The gate leaves the link alone, and everything else too unless the status lets the call in. -/
theorem calm_gate (name : String) (s : Session κ η) :
    Calm s (s.gate name).2 ∧ (s.status.isUp = false → Still s (s.gate name).2) := by
  cases allowed : s.isConnected && s.status.allows .call with
  | false =>
    rw [gate_shut allowed]
    exact ⟨(Still.refl s).calm, fun _ => .refl s⟩
  | true =>
    have up : s.status.isUp = true :=
      (Bool.and_eq_true_iff.mp (Bool.and_eq_true_iff.mp allowed).1).1
    refine ⟨?_, fun down => by rw [up] at down; cases down⟩
    rw [gate_cleared allowed]
    split
    · exact (calm_cleared name s).trans
        ((still_detector _ _).trans (still_noteAll _ _)).calm
    · exact calm_cleared name s

/-- The call goes out, and leads to `b`. -/
def Calls (caller : UInt16) (name : String) (params : List Callback.Param) (s b : Session κ η) :
    Prop :=
  ∃ u payload, (s.observe name).gate name = (true, u) ∧
    u.callPayload caller name params = .ok (some payload) ∧ b = u.send Opcode.publicCall payload

theorem Calls.calm {caller : UInt16} {name : String} {params : List Callback.Param}
    {s b : Session κ η} (calls : Calls caller name params s b) : Calm s b := by
  obtain ⟨u, payload, gate, -, rfl⟩ := calls
  have gated : Calm (s.observe name) u := by
    have calm := (calm_gate name (s.observe name)).1
    rwa [gate] at calm
  exact (calm_observe name s).trans (gated.trans (still_send _ _ u).calm)

variable [Host η]

/-- A call goes out and its value is read off the answer, or it does not go out and has no value. -/
theorem call_cases {patience : Nat} {caller : UInt16} {name : String}
    {params : List Callback.Param} {s t : Session κ η} {value : Option Int32}
    (run : s.call patience caller name params = some (value, t)) :
    (value = none ∧ ∀ b, ¬ Calls caller name params s b) ∨
      ∃ b reply u, Calls caller name params s b ∧ awaitReply patience b = some (reply, u) ∧
        value = replyValue reply ∧ t = u.noteSilence name reply := by
  unfold call at run
  split at run
  · rename_i u gate
    cases run
    refine .inl ⟨rfl, fun b ⟨v, payload, opened, _⟩ => ?_⟩
    rw [gate] at opened
    cases opened
  · rename_i u gate
    split at run
    · rename_i e refused
      cases run
      refine .inl ⟨rfl, fun b ⟨v, payload, opened, written, _⟩ => ?_⟩
      rw [gate] at opened
      cases opened
      rw [refused] at written
      cases written
    · rename_i absent
      cases run
      refine .inl ⟨rfl, fun b ⟨v, payload, opened, written, _⟩ => ?_⟩
      rw [gate] at opened
      cases opened
      rw [absent] at written
      cases written
    · rename_i payload written
      split at run
      · cases run
      · rename_i reply v waited
        cases run
        exact .inr ⟨_, reply, v, ⟨u, payload, gate, written, rfl⟩, waited, rfl, rfl⟩

end HostLink.Session
