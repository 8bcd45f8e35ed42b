import HostLink.Proofs.Callback.Encoding
import HostLink.Proofs.Session.Brings
import HostLink.Proofs.Session.RoundTrip

/-!
# HostLink.Proofs.Session.Forward

When a call goes out. It does exactly if the session lets it (`LetsOut`) and it can be written
within the limit of a payload (`Forwards`); both are asked of the session as the call finds it. On
the way some marks are set and some notices entered, and nothing else is done (`Aside`): all that a
call does which does not go out is of this kind, and so is all that another does before its one
frame is offered to the channel (`Attempts`). Then it waits.

* `aside_gate`, `gate_iff_letsOut` — what the gate does, and when it opens.
* `awaitReply_takes` — an answer is the payload of the last frame that came.
* `call_iff_forwards` — the whole of a call.
* `Occurs.forwards_iff_fits` — in the life of a session a call can be written if it fits the
  signature that was registered.
-/

namespace HostLink

/-- Whether an event is a notice, or tells of the holding state. -/
def Event.isAside {η : Type} : Event η → Bool
  | .notice _ => true
  | .report (.holding _) => true
  | _ => false

theorem Event.isTraffic_of_aside {η : Type} {e : Event η} (aside : e.isAside = true) :
    e.isTraffic = false := by
  cases e with
  | notice => rfl
  | report => rfl
  | _ => cases aside

namespace Session

open Callback (Param)

variable {κ η : Type}

/-! ## What is done aside -/

/-- Nothing has changed but the marks of the init callback on either side, the holding state and the
mark of a pause, and nothing was entered but notices and reports of the holding state. -/
def Aside (s t : Session κ η) : Prop :=
  ∃ hostInit clientInit on paused, ∃ es : Journal η, (∀ e ∈ es, e.isAside = true) ∧
    t = { s with
      status := { s.status with hostInit, clientInit }
      holding := { s.holding with on }
      detector := { s.detector with paused }
      past := es ++ s.past }

namespace Aside

theorem of_past {s : Session κ η} (es : Journal η) (aside : ∀ e ∈ es, e.isAside = true) :
    Aside s { s with past := es ++ s.past } :=
  ⟨_, _, _, _, es, aside, rfl⟩

theorem refl (s : Session κ η) : Aside s s := of_past [] (by simp)

theorem trans {s t u : Session κ η} (h : Aside s t) (h' : Aside t u) : Aside s u := by
  obtain ⟨_, _, _, _, es, first, rfl⟩ := h
  obtain ⟨hostInit, clientInit, on, paused, fs, second, rfl⟩ := h'
  refine ⟨hostInit, clientInit, on, paused, fs ++ es, ?_, by simp⟩
  exact List.forall_mem_append.mpr ⟨second, first⟩

theorem traffic {s t : Session κ η} (h : Aside s t) : t.traffic = s.traffic := by
  obtain ⟨_, _, _, _, es, aside, rfl⟩ := h
  have none_in : es.reverse.filter Event.isTraffic = [] := by
    refine List.filter_eq_nil_iff.mpr fun e mem => ?_
    simp [Event.isTraffic_of_aside (aside e (List.mem_reverse.mp mem))]
  simp [Session.traffic, journal, none_in]

end Aside

theorem aside_note (n : Notice) (s : Session κ η) : Aside s (s.note n) :=
  .of_past [.notice n] (by simp [Event.isAside])

theorem aside_noteAll (ns : List Notice) (s : Session κ η) : Aside s (s.noteAll ns) := by
  refine .of_past _ fun e mem => ?_
  obtain ⟨n, -, rfl⟩ := List.mem_map.mp (List.mem_reverse.mp mem)
  rfl

theorem aside_observe (name : String) (s : Session κ η) : Aside s (s.observe name) := by
  unfold observe
  split
  · exact ⟨true, _, _, _, [], by simp, rfl⟩
  · split
    · exact ⟨false, _, _, _, [], by simp, rfl⟩
    · exact .refl s

theorem aside_setHolding (on : Bool) (s : Session κ η) : Aside s (s.setHolding on) := by
  unfold setHolding
  split
  rename_i holding reports set
  unfold Holding.set at set
  split at set
  · cases set
    exact .refl s
  · cases set
    refine ⟨_, _, on, _, _, fun e mem => ?_, rfl⟩
    obtain ⟨r, heard, rfl⟩ := List.mem_map.mp (List.mem_reverse.mp mem)
    rw [hear_holding _ on r heard]
    rfl

theorem aside_checkCall (s : Session κ η) :
    Aside s ({ s with detector := s.detector.checkCall.2.1 }.noteAll s.detector.checkCall.2.2) := by
  have checked : Aside s { s with detector := s.detector.checkCall.2.1 } := by
    unfold Pause.Detector.checkCall
    split
    · exact .refl s
    · exact ⟨_, _, _, s.detector.isStale, [], by simp, rfl⟩
  exact checked.trans (aside_noteAll _ _)

theorem aside_cleared (name : String) (s : Session κ η) : Aside s (s.cleared name) := by
  have lowered := aside_setHolding false s
  unfold cleared
  split
  · exact lowered.trans ⟨_, true, _, _, [], by simp, rfl⟩
  · exact lowered

theorem Aside.callPayload {s t : Session κ η} (h : Aside s t) (caller : UInt16) (name : String)
    (params : List Param) :
    t.callPayload caller name params = s.callPayload caller name params := by
  obtain ⟨_, _, _, _, es, -, rfl⟩ := h
  rfl

variable {caller : UInt16} {name : String} {params : List Param} {payload : Bytes}

theorem callPayload_eq_some {s : Session κ η} :
    s.callPayload caller name params = .ok (some payload) ↔
      ∃ w, s.callbacks.writeCall (some caller) name params
        (.empty s.settings.maxPayloadSize.toNat) = (.ok true, w) ∧ payload = w.bytes := by
  unfold callPayload
  split
  · rename_i w written
    rw [written]
    simp [eq_comm]
  · rename_i w absent
    rw [absent]
    simp
  · rename_i e w refused
    rw [refused]
    simp

theorem clientInit_cleared {name : String} {s : Session κ η} :
    (s.cleared name).status.clientInit = true ↔
      name = s.settings.initCallback ∨ s.status.clientInit = true := by
  unfold cleared
  split
  · rename_i init
    exact ⟨fun _ => .inl init, fun _ => rfl⟩
  · rename_i other
    exact ⟨.inr, fun h => h.resolve_left other⟩

variable [Channel κ]

/-- Whether or not it opens, what the gate does it does aside. -/
theorem aside_gate (name : String) (s : Session κ η) : Aside s (s.gate name).2 := by
  cases allowed : s.isConnected && s.status.allows .call with
  | false =>
    rw [gate_shut allowed]
    exact .refl s
  | true =>
    rw [gate_cleared allowed]
    split
    · exact (aside_cleared name s).trans (aside_checkCall _)
    · exact aside_cleared name s

/-! ## The gate -/

/-- The session lets a call out. -/
structure LetsOut (name : String) (s : Session κ η) : Prop where
  up : s.status.link = .up
  connected : Channel.isConnected s.channel = true
  started : s.status.started = true
  intent : s.status.intent = .none
  init : name = s.settings.initCallback ∨ s.status.clientInit = true
  awake : s.detector.checkCall.1 = false

theorem allowed_iff {s : Session κ η} : (s.isConnected && s.status.allows .call) = true ↔
    s.status.link = .up ∧ Channel.isConnected s.channel = true ∧ s.status.started = true ∧
      s.status.intent = .none := by
  simp only [isConnected, Status.allows, Status.isLive, Status.isUp, Bool.and_eq_true,
    decide_eq_true_eq]
  tauto

theorem gate_iff_letsOut {name : String} {s : Session κ η} :
    (s.gate name).1 = true ↔ LetsOut name s := by
  have detector : (s.cleared name).detector = s.detector := by
    unfold cleared
    split <;> rfl
  cases allowed : s.isConnected && s.status.allows .call with
  | false =>
    rw [gate_shut allowed]
    refine ⟨nofun, fun free => ?_⟩
    have allow := allowed_iff.mpr ⟨free.up, free.connected, free.started, free.intent⟩
    rw [allowed] at allow
    cases allow
  | true =>
    obtain ⟨up, connected, started, intent⟩ := allowed_iff.mp allowed
    rw [gate_cleared allowed]
    split
    · rename_i init
      rw [detector]
      refine ⟨fun awake => ?_, fun free => by rw [free.awake]; rfl⟩
      exact ⟨up, connected, started, intent, clientInit_cleared.mp init, by simpa using awake⟩
    · rename_i uninit
      exact ⟨nofun, fun free => absurd (clientInit_cleared.mpr free.init) uninit⟩

/-- It makes no difference that the call was taken note of. -/
theorem letsOut_observe {name : String} {s : Session κ η} :
    LetsOut name (s.observe name) ↔ LetsOut name s := by
  have same (hostInit : Bool) : LetsOut name { s with status := { s.status with hostInit } } ↔
      LetsOut name s :=
    ⟨fun h => ⟨h.up, h.connected, h.started, h.intent, h.init, h.awake⟩,
      fun h => ⟨h.up, h.connected, h.started, h.intent, h.init, h.awake⟩⟩
  unfold observe
  split
  · exact same true
  · split
    · exact same false
    · exact Iff.rfl

/-! ## Forwarding -/

/-- The session lets the call out, and written within the limit it is the payload. -/
structure Forwards (caller : UInt16) (name : String) (params : List Param) (payload : Bytes)
    (s : Session κ η) : Prop extends LetsOut name s where
  written : ∃ w, s.callbacks.writeCall (some caller) name params
    (.empty s.settings.maxPayloadSize.toNat) = (.ok true, w) ∧ payload = w.bytes

/-- The session when a call has met the gate. -/
def gated (name : String) (s : Session κ η) : Session κ η := ((s.observe name).gate name).2

theorem aside_gated (name : String) (s : Session κ η) : Aside s (s.gated name) :=
  (aside_observe name s).trans (aside_gate name _)

theorem gate_eq_gated {name : String} {s : Session κ η} :
    (s.observe name).gate name = (true, s.gated name) ↔ LetsOut name s := by
  rw [← letsOut_observe, ← gate_iff_letsOut]
  exact ⟨fun h => by rw [h], fun h => Prod.ext h rfl⟩

/-- A call that waits for its answer in any way. -/
def callWith (await : Wait κ η) (caller : UInt16) (name : String) (params : List Param)
    (s : Session κ η) : Option (Option Int32 × Session κ η) :=
  match (s.observe name).gate name with
  | (false, s) => some (none, s)
  | (true, s) =>
    match s.callPayload caller name params with
    | .error e => some (none, s.note (.notForwarded name e))
    | .ok none => some (none, s)
    | .ok (some payload) => (await (s.send Opcode.publicCall payload)).map fun r =>
      (replyValue r.1, r.2.noteSilence name r.1)

/-- The call offers one frame of its own to the channel, with the payload, and leads to `b`. What
was done before was done aside, and the rest is to wait for the answer, in whatever way. -/
structure Attempts (caller : UInt16) (name : String) (params : List Param) (payload : Bytes)
    (s b : Session κ η) : Prop where
  sends : ∃ u, Aside s u ∧ b = u.send Opcode.publicCall payload
  waits : ∀ await : Wait κ η, s.callWith await caller name params =
    (await b).map fun r => (replyValue r.1, r.2.noteSilence name r.1)

theorem Attempts.offers {s b : Session κ η} (attempts : Attempts caller name params payload s b) :
    ∃ (e : Event η) (status : Status), e.offered? = some (⟨Opcode.publicCall, payload⟩, status) ∧
      b.traffic = s.traffic ++ [e] := by
  obtain ⟨u, aside, rfl⟩ := attempts.sends
  obtain ⟨e, offered, traffic⟩ := offers_send Opcode.publicCall payload u
  exact ⟨e, u.status, offered, by rw [traffic, aside.traffic]⟩

theorem Attempts.unique {payload' : Bytes} {s b b' : Session κ η}
    (h : Attempts caller name params payload s b)
    (h' : Attempts caller name params payload' s b') : payload = payload' := by
  have idle := (h.waits fun u => some (none, u)).symm.trans (h'.waits fun u => some (none, u))
  have same := congrArg Session.traffic (Prod.mk.inj (Option.some.inj idle)).2
  obtain ⟨e, status, offered, traffic⟩ := h.offers
  obtain ⟨e', status', offered', traffic'⟩ := h'.offers
  rw [traffic_noteSilence, traffic_noteSilence, traffic, traffic', List.append_cancel_left_eq,
    List.singleton_inj] at same
  rw [same, offered'] at offered
  cases offered
  rfl

theorem Forwards.attempts {s : Session κ η} (forwards : Forwards caller name params payload s) :
    Attempts caller name params payload s ((s.gated name).send Opcode.publicCall payload) where
  sends := ⟨_, s.aside_gated name, rfl⟩
  waits await := by
    rw [callWith, gate_eq_gated.mpr forwards.toLetsOut]
    dsimp only
    rw [(s.aside_gated name).callPayload, callPayload_eq_some.mpr forwards.written]

/-- A call that is not forwarded is over at once, and all that it did it did aside. -/
theorem callWith_withheld {s : Session κ η}
    (withheld : ∀ payload, ¬ Forwards caller name params payload s) :
    ∃ t, Aside s t ∧ ∀ await : Wait κ η, s.callWith await caller name params = some (none, t) := by
  have gated := s.aside_gated name
  cases opened : ((s.observe name).gate name).1 with
  | false =>
    have shut : (s.observe name).gate name = (false, s.gated name) := Prod.ext opened rfl
    exact ⟨_, gated, fun await => by rw [callWith, shut]⟩
  | true =>
    have free : LetsOut name s := letsOut_observe.mp (gate_iff_letsOut.mp opened)
    cases written : s.callPayload caller name params with
    | error e =>
      refine ⟨_, gated.trans (aside_note (.notForwarded name e) _), fun await => ?_⟩
      rw [callWith, gate_eq_gated.mpr free]
      dsimp only
      rw [gated.callPayload, written]
    | ok payload? =>
      cases payload? with
      | none =>
        refine ⟨_, gated, fun await => ?_⟩
        rw [callWith, gate_eq_gated.mpr free]
        dsimp only
        rw [gated.callPayload, written]
      | some payload =>
        exact absurd ⟨free, callPayload_eq_some.mp written⟩ (withheld payload)

theorem Attempts.forwards {s b : Session κ η} (h : Attempts caller name params payload s b) :
    Forwards caller name params payload s := by
  by_cases forwarded : ∃ payload', Forwards caller name params payload' s
  · obtain ⟨payload', forwards⟩ := forwarded
    rwa [h.unique forwards.attempts]
  · obtain ⟨t, -, ends⟩ := callWith_withheld (not_exists.mp forwarded)
    -- a wait that is given up at once would not have been asked
    have given := (ends fun _ => none).symm.trans (h.waits fun _ => none)
    cases given

/-! ## The answer -/

theorem replyValue_eq_some {reply : Option Bytes} {v : Int32} : replyValue reply = some v ↔
    ∃ flag rest, flag ≠ 0 ∧ reply = some (flag :: (Bytes.ofU32 v.toUInt32 ++ rest)) := by
  constructor
  · intro h
    match reply with
    | none => cases h
    | some [] => cases h
    | some (flag :: bytes) =>
      rw [replyValue, CallAnswer.decode?] at h
      split at h
      · cases h
      · rename_i answer decoded
        split at decoded
        · rename_i value rest read
          split at decoded
          · cases decoded
            cases h
          · rename_i set
            cases decoded
            cases h
            exact ⟨flag, rest, set, by rw [Cell.Read.cell_eq_ok.mp read]⟩
        · cases decoded
          cases h
  · rintro ⟨flag, rest, set, rfl⟩
    rw [replyValue, CallAnswer.decode?, Cell.Read.cell_eq_ok.mpr rfl]
    dsimp only
    rw [if_neg set]

section Serving

variable [Host η]

/-- The payload came with the last frame, which is no command. -/
def Takes (payload : Bytes) (s t : Session κ η) : Prop :=
  ∃ (es : Journal η) (f : Frame), t.traffic = s.traffic ++ (es ++ [.received f]) ∧
    f.payload = payload ∧ Command.decode f = .ok none

/-- An answer that a wait ends with is the payload of the last frame that came. -/
theorem awaitReply_takes {patience : Nat} {s t : Session κ η}
    (run : awaitReply patience s = some (some payload, t)) : Takes payload s t := by
  obtain ⟨u, await, course, -, took⟩ := conduct_course.awaitReply_answer run
  obtain ⟨es, before⟩ := course.traffic
  obtain ⟨f, journal, same, unmapped, -⟩ := took.answer
  have last : t.traffic = u.traffic ++ [.received f] := by
    simp [Session.traffic, journal, Event.isTraffic]
  exact ⟨es, f, by rw [last, before, List.append_assoc], same, unmapped⟩

theorem call_eq_callWith (patience : Nat) (caller : UInt16) (name : String) (params : List Param)
    (s : Session κ η) :
    s.call patience caller name params = s.callWith (awaitReply patience) caller name params := by
  unfold call callWith
  rcases (s.observe name).gate name with ⟨_ | _, u⟩
  · rfl
  · dsimp only
    rcases u.callPayload caller name params with e | _ | payload
    · rfl
    · rfl
    · dsimp only
      cases awaitReply patience (u.send Opcode.publicCall payload) <;> rfl

/-- A call offers one frame of its own to the channel exactly if it is forwarded, and then waits.
If it is not, it is over at once without a value, and whatever it did it did aside: the channel and
all else is as it was. If it is, its value is that in the answer, the payload of the last frame that
came: four bytes behind a flag that is set. -/
theorem call_iff_forwards (caller : UInt16) (name : String) (params : List Param)
    (s : Session κ η) :
    (∀ payload, (∃ b, Attempts caller name params payload s b) ↔
      Forwards caller name params payload s) ∧
    ((∀ payload, ¬ Forwards caller name params payload s) →
      ∃ t, Aside s t ∧ ∀ patience, s.call patience caller name params = some (none, t)) ∧
    ∀ payload b, Attempts caller name params payload s b →
      (∃ (e : Event η) (status : Status),
        e.offered? = some (⟨Opcode.publicCall, payload⟩, status) ∧
          b.traffic = s.traffic ++ [e]) ∧
      ∀ patience value t, s.call patience caller name params = some (value, t) →
        ∃ reply u, awaitReply patience b = some (reply, u) ∧ t = u.noteSilence name reply ∧
          (∀ answer, reply = some answer → Takes answer b t) ∧
          ∀ v, value = some v ↔
            ∃ flag rest, flag ≠ 0 ∧ reply = some (flag :: (Bytes.ofU32 v.toUInt32 ++ rest)) := by
  refine ⟨fun payload => ⟨fun ⟨b, attempts⟩ => attempts.forwards, fun forwards =>
    ⟨_, forwards.attempts⟩⟩, fun withheld => ?_,
    fun payload b attempts => ⟨attempts.offers, fun patience value t run => ?_⟩⟩
  · obtain ⟨t, aside, ends⟩ := callWith_withheld withheld
    exact ⟨t, aside, fun patience => by rw [call_eq_callWith, ends]⟩
  · rw [call_eq_callWith, attempts.waits] at run
    obtain ⟨⟨reply, u⟩, waited, same⟩ := Option.map_eq_some_iff.mp run
    obtain ⟨rfl, rfl⟩ := Prod.mk.inj same
    refine ⟨reply, u, waited, rfl, ?_, fun v => replyValue_eq_some⟩
    rintro answer rfl
    obtain ⟨es, f, traffic, came⟩ := awaitReply_takes waited
    exact ⟨es, f, by rw [traffic_noteSilence, traffic], came⟩

/-- The host's script has begun and `OnFoo` is registered: the call goes out, and its value is in
the five bytes that come back. -/
theorem call_iff_forwards_launched : ∃ (s b t : Session Scripted.Wire Scripted.Catalog) (payload :
    Bytes), Reachable s ∧ Forwards 0 "OnFoo" [] payload s ∧ Attempts 0 "OnFoo" [] payload s b ∧
      s.call 9 0 "OnFoo" [] = some (some 7, t) ∧
      ∃ flag rest, flag ≠ 0 ∧ Takes (flag :: (Bytes.ofU32 7 ++ rest)) b t := by
  let items : List Scripted.Item := [.frame ⟨32, [1, 7, 0, 0, 0]⟩]
  have shown : ((launched relay items).bind fun s =>
      (s.call 9 0 "OnFoo" []).map Prod.fst) = some (some 7) := by decide
  obtain ⟨s, started, shown⟩ := Option.bind_eq_some_iff.mp shown
  obtain ⟨⟨value, t⟩, called, rfl⟩ := Option.map_eq_some_iff.mp shown
  obtain ⟨attempts, withheld, answered⟩ := call_iff_forwards 0 "OnFoo" [] s
  by_cases forwarded : ∃ payload, Forwards 0 "OnFoo" [] payload s
  · obtain ⟨payload, forwards⟩ := forwarded
    obtain ⟨b, attempted⟩ := (attempts payload).mpr forwards
    obtain ⟨reply, u, -, -, takes, value⟩ := (answered payload b attempted).2 9 _ t called
    obtain ⟨flag, rest, set, rfl⟩ := (value 7).mp rfl
    exact ⟨s, b, t, payload, reachable_launched rfl started, forwards, attempted, called, flag,
      rest, set, takes _ rfl⟩
  · obtain ⟨t', -, ends⟩ := withheld (not_exists.mp forwarded)
    have absent := called.symm.trans (ends 9)
    cases absent

/-- In the life of a session, what is forwarded are the bytes of the call. It has to fit the
signature that was registered, and its bytes the limit. -/
theorem Occurs.forwards_iff_fits {s : Session κ η} (occurs : s.Occurs) :
    Forwards caller name params payload s ↔ LetsOut name s ∧
      (∃ signature, s.callbacks.get? name = some signature ∧ Callback.Fits signature params) ∧
      payload = Callback.callBytes (some caller) name params ∧
      payload.length ≤ s.settings.maxPayloadSize.toNat := by
  obtain ⟨records, eq⟩ := occurs.ofRecords
  rw [eq]
  constructor
  · rintro ⟨free, w, written, rfl⟩
    rw [eq] at written
    obtain ⟨registered, room, rfl⟩ := Callback.Table.writeCall_eq_true.mp written
    exact ⟨free, registered, by simp [Cell.Writer.empty],
      by simpa [Cell.Writer.empty] using room⟩
  · rintro ⟨free, registered, rfl, room⟩
    let fresh := Cell.Writer.empty s.settings.maxPayloadSize.toNat
    have written := (Callback.Table.writeCall_eq_true (w := fresh)).mpr
      ⟨registered, by simpa [fresh, Cell.Writer.empty] using room, rfl⟩
    exact ⟨free, _, by rw [eq]; exact written, by simp [fresh, Cell.Writer.empty]⟩

end Serving

end Session

end HostLink
