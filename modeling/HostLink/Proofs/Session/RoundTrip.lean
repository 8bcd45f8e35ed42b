import HostLink.Proofs.Session.Trace

/-!
# HostLink.Proofs.Session.RoundTrip

A call goes out and the session waits for its answer, and so it does when it calls the init
callback for a runtime that starts (`Begins`). A wait *keeps to its connection* when, once that has
ended, it gives no answer, lets nobody in and takes no frame (`Journal.KeepsTo`).

A wait keeps to its connection exactly if nobody is let in before it is over (`RoundTrip`). It
looks again at the door when the end of the connection was not the last thing that a look came to:
the runtime asked for a reconnect, or a wait inside saw the end and gave up, and this wait did not
hear of it. If somebody is at the door then, the wait goes on with the new connection, and takes
the first frame there that is no command for its answer.
-/

namespace HostLink

namespace Journal

variable {η : Type}

/-- After an end nothing was answered, nobody let in and no frame taken. -/
def KeepsTo (reply : Option Bytes) (w : Journal η) : Prop :=
  ∀ (before : Journal η) cause kept after, w = before ++ .hungUp cause kept :: after →
    reply = none ∧ Lonely after ∧ ∀ f, .received f ∉ after

theorem linkAfter_hungUp {up : Bool} {before after : Journal η} {cause : Cause} {kept : Memory η}
    (link : linkAfter true (before ++ .hungUp cause kept :: after) = some up) :
    linkAfter false after = some up := by
  rw [linkAfter_append] at link
  obtain ⟨between, -, link⟩ := Option.bind_eq_some_iff.mp link
  cases between with
  | true => exact link
  | false => cases link

/-- What happened while the link had been up keeps to it exactly if nobody was let in. -/
theorem keepsTo_iff_lonely {reply : Option Bytes} {w : Journal η} {up : Bool}
    (link : w.linkAfter true = some up) (answered : reply ≠ none → up = true) :
    KeepsTo reply w ↔ w.Lonely := by
  constructor
  · intro keeps
    refine Classical.byContradiction fun came => ?_
    obtain ⟨before, cause, kept, after, eq, rest⟩ := ended_of_not_lonely came link
    exact rest (keeps before cause kept after eq).2.1
  · rintro lonely before cause kept after rfl
    have rest : Lonely after := (lonely_cons.mp (lonely_append.mp lonely).2).2
    obtain ⟨down, silent⟩ := rest.down (linkAfter_hungUp link)
    refine ⟨?_, rest, silent⟩
    refine Classical.byContradiction fun answer => ?_
    rw [answered answer] at down
    cases down

end Journal

/-- How many were let in. -/
def Journal.arrivals {η : Type} (j : Journal η) : Nat :=
  j.countP fun e => match e with
    | .letIn _ => true
    | _ => false

theorem Journal.lonely_iff_arrivals {η : Type} (j : Journal η) : j.Lonely ↔ j.arrivals = 0 := by
  rw [arrivals, List.countP_eq_zero]
  constructor
  · intro lonely e mem
    cases e with
    | letIn kept => exact absurd mem (lonely kept)
    | _ => simp
  · exact fun none kept mem => absurd rfl (none _ mem)

/-- A frame after which a wait may go on though its connection has ended. -/
def Frame.Disrupts (f : Frame) : Prop :=
  Command.decode f = .ok (some .reconnect) ∨ Command.decode f = .ok (some (.start .deliverInit))

/-- What happened during a wait that gave this reply. -/
structure RoundTrip {η : Type} (reply : Option Bytes) (w : Journal η) : Prop where
  /-- The wait kept to its connection exactly if nobody was let in. -/
  keeps : w.KeepsTo reply ↔ w.Lonely
  /-- The answer is the last frame that came in, and no command. -/
  answer : ∀ payload, reply = some payload → ∃ (w' : Journal η) (f : Frame),
    w = w' ++ [.received f] ∧ f.payload = payload ∧ Command.decode f = .ok none
  /-- Somebody was let in only after a reconnect or the delivery of an init callback. -/
  disrupted : ¬ w.Lonely → ∃ f, .received f ∈ w ∧ f.Disrupts

namespace Session

variable {κ η : Type} [Channel κ]

/-- A frame comes in that makes the call of the init callback go out, and leads to `b`. -/
def Delivers (s b : Session κ η) : Prop :=
  ∃ c f payload, s.Tuned ∧ Channel.receive s.channel = (.frame f, c) ∧
    Asks f payload ({ s with channel := c }.hear f) ∧
    b = ({ s with channel := c }.hear f).asking payload

/-- A wait begins in `b`. -/
def Begins (s b : Session κ η) : Prop :=
  (∃ caller name params, Calls caller name params s b) ∨ Delivers s b

/-- Whoever was let in during a call was let in during its wait. -/
theorem Calls.arrivals {caller : UInt16} {name : String} {params : List Callback.Param}
    {s b u : Session κ η} (calls : Calls caller name params s b) {w : Journal η}
    (journal : u.journal = b.journal ++ w) (reply : Option Bytes) :
    (u.noteSilence name reply).journal.arrivals = s.journal.arrivals + w.arrivals := by
  obtain ⟨es, before, begun⟩ := calls.calm.quiet.journal
  obtain ⟨fs, after, ended⟩ := (still_noteSilence name reply u).quiet.journal
  have before := (Journal.lonely_iff_arrivals es).mp before.lonely
  have after := (Journal.lonely_iff_arrivals fs).mp after.lonely
  unfold Journal.arrivals at before after ⊢
  rw [ended, journal, begun]
  simp only [List.countP_append, before, after]
  omega

theorem Begins.isUp {s b : Session κ η} (begins : Begins s b) (sound : s.Sound) :
    b.status.isUp = true := by
  rcases begins with ⟨caller, name, params, u, payload, gate, written, rfl⟩ |
      ⟨c, f, payload, tuned, frame, asks, rfl⟩
  · rw [(still_send _ payload u).status]
    exact (Bool.and_eq_true_iff.mp (gate_open gate).1).1
  · rw [(calm_asking payload _).isUp]
    exact sound.tuned tuned

/-- What a look adds to the journal of a session whose link is up: unless a disruptive frame came
in, nobody was let in, and an end of the connection is the end of the wait. -/
def Steady (s : Session κ η) (step : Step) (t : Session κ η) : Prop :=
  ∃ es : Journal η, t.journal = s.journal ++ es ∧
    ((∀ f, .received f ∈ es → ¬ f.Disrupts) → es.Lonely ∧ (t.status.isUp = true ∨ step = .dead))

theorem steady_disconnect (context : Option String) {s : Session κ η} (up : s.status.isUp = true) :
    Steady s .dead (s.disconnect context false) := by
  obtain ⟨before, after, silentB, silentA, journal⟩ := (ended_disconnect context false up).journal
  exact ⟨_, journal, fun _ => ⟨by simp [silentB.lonely, silentA.lonely], .inr rfl⟩⟩

variable [Host η]

theorem Begins.path {s b : Session κ η} (begins : Begins s b) : Path s b := by
  rcases begins with ⟨caller, name, params, u, payload, gate, written, rfl⟩ |
      ⟨c, f, payload, tuned, frame, asks, rfl⟩
  · obtain ⟨connected, allowed, init⟩ := gate_open gate
    have gated : Path s ((s.observe name).gate name).2 :=
      .tail (.single (.observed name)) (.gated name)
    rw [gate] at gated
    exact gated.tail (.called payload connected allowed init)
  · exact .single (.asked tuned frame asks)

/-- A wait that finds the link down and nobody at the door is over. -/
theorem awaitReply_alone (patience : Nat) {s : Session κ η} (down : s.status.isUp = false)
    (alone : (s.connect).1 = false) : awaitReply (patience + 1) s = some (none, s.connect.2) := by
  rw [awaitReply, poll_alone _ down alone]

/-! ## The answer -/

theorem Took.answer {await : Wait κ η} {s t : Session κ η} {payload : Bytes}
    (took : Took await s (.answer payload) t) :
    ∃ f : Frame, t.journal = s.journal ++ [.received f] ∧ f.payload = payload ∧
      Command.decode f = .ok none ∧ t.status = s.status := by
  cases took with
  | @served c f _ _ h served =>
    cases served with
    | answer unmapped => exact ⟨f, journal_hear f c s, rfl, unmapped, rfl⟩

variable [LawfulChannel κ]

theorem awaitReply_answer {patience : Nat} {s t : Session κ η} {payload : Bytes} (sound : s.Sound)
    (run : awaitReply patience s = some (some payload, t)) : ∃ (w : Journal η) (f : Frame),
      t.journal = s.journal ++ (w ++ [.received f]) ∧ f.payload = payload ∧
      Command.decode f = .ok none ∧ t.status.isUp = true := by
  obtain ⟨u, await, path, tuned, took⟩ := conduct_path.awaitReply_answer run
  obtain ⟨w, before, -⟩ := path.linkAfter sound
  obtain ⟨f, journal, same, unmapped, status⟩ := took.answer
  refine ⟨w, f, by rw [journal, before, List.append_assoc], same, unmapped, ?_⟩
  rw [status]
  exact (Path.sound path sound).tuned tuned

/-! ## The end of the connection -/

theorem Took.steady {await : Wait κ η} (wait : await.Keeps Path) {s t : Session κ η} {step : Step}
    (took : Took await s step t) (up : s.status.isUp = true) (sound : s.Sound) :
    Steady s step t := by
  cases took with
  | nothing h => exact ⟨[], by simp [journal], fun _ => ⟨by simp, .inl up⟩⟩
  | @dead c h =>
    let opened : Session κ η := { s with channel := c }
    obtain ⟨es, journal, steady⟩ := steady_disconnect (s := opened) (some connectionLost) up
    exact ⟨es, journal, steady⟩
  | @served c f _ _ h served =>
    have taken := journal_hear f c s
    rcases served.calm with calm | ⟨-, decoded, ended⟩
    · obtain ⟨es, silent, journal⟩ := calm.quiet.journal
      refine ⟨.received f :: es, by rw [journal, taken, List.append_assoc]; rfl,
        fun _ => ⟨?_, .inl ?_⟩⟩
      · simp [silent.lonely]
      · rw [calm.isUp]
        exact up
    · obtain ⟨before, after, -, -, journal⟩ := ended.journal
      have noted : ({ s with channel := c }.hear f).expecting.journal =
          s.journal ++ [.received f, .notice .remoteReconnecting] := by
        simp [Session.journal, hear, record, expecting, note]
      refine ⟨[.received f, .notice .remoteReconnecting] ++ _,
        by rw [journal, noted, List.append_assoc], fun steady => ?_⟩
      exact absurd (.inl decoded) (steady f (by simp))
  | @asked c f payload reply u h asks waited =>
    let heard : Session κ η := { s with channel := c }.hear f
    have taken : heard.journal = s.journal ++ [.received f] := journal_hear f c s
    obtain ⟨es, -, begun⟩ := (calm_asking payload heard).quiet.journal
    have first : Path s (heard.asking payload) := .single (.asked (.inr up) h asks)
    have rest : Path (heard.asking payload) (u.resumed reply) := (wait waited).tail (.resumed reply)
    obtain ⟨fs, journal, -⟩ := rest.linkAfter (Path.sound first sound)
    refine ⟨.received f :: (es ++ fs), by simp [journal, begun, taken], fun steady => ?_⟩
    exact absurd (.inr asks.command) (steady f (by simp))

theorem poll_steady {await : Wait κ η} (wait : await.Keeps Path) {s t : Session κ η} {step : Step}
    (run : s.poll await = some (step, t)) (up : s.status.isUp = true) (sound : s.Sound) :
    Steady s step t := by
  rcases poll_cases run with ⟨-, rfl, rfl⟩ | ⟨kept, others⟩
  · exact steady_disconnect _ up
  · have connected : Channel.isConnected s.channel = true :=
      kept.resolve_right (by simp [up])
    have stays : s.connect = (true, s) := by simp [connect, connected]
    rcases others with ⟨alone, -⟩ | ⟨u, opened, took⟩
    · rw [stays] at alone
      cases alone
    · rw [stays] at opened
      cases opened
      exact took.steady wait up sound

/-- Unless a disruptive frame comes in, nobody is let in while an answer is awaited. -/
theorem awaitReply_lonely {patience : Nat} {s t : Session κ η} {reply : Option Bytes}
    (run : awaitReply patience s = some (reply, t)) (up : s.status.isUp = true) (sound : s.Sound) :
    ∃ w : Journal η, t.journal = s.journal ++ w ∧
      ((∀ f, .received f ∈ w → ¬ f.Disrupts) → w.Lonely) := by
  induction patience generalizing s with
  | zero => cases run
  | succ n ih =>
    have steady {step : Step} {u : Session κ η} (polled : s.poll (awaitReply n) = some (step, u)) :=
      poll_steady (conduct_path.awaitReply n) polled up sound
    have last {step : Step} (polled : s.poll (awaitReply n) = some (step, t)) :
        ∃ w : Journal η, t.journal = s.journal ++ w ∧
          ((∀ f, .received f ∈ w → ¬ f.Disrupts) → w.Lonely) := by
      obtain ⟨w, journal, lonely⟩ := steady polled
      exact ⟨w, journal, fun calm => (lonely calm).1⟩
    have later {step : Step} {u : Session κ η} (polled : s.poll (awaitReply n) = some (step, u))
        (alive : step ≠ .dead) (rest : awaitReply n u = some (reply, t)) :
        ∃ w : Journal η, t.journal = s.journal ++ w ∧
          ((∀ f, .received f ∈ w → ¬ f.Disrupts) → w.Lonely) := by
      have path : Path s u := conduct_path.poll (conduct_path.awaitReply n) polled
      have sound : u.Sound := path.sound sound
      obtain ⟨es, journal, lonely⟩ := steady polled
      by_cases calm : ∀ f, .received f ∈ es → ¬ f.Disrupts
      · have up : u.status.isUp = true := (lonely calm).2.resolve_right alive
        obtain ⟨fs, journal', lonely'⟩ := ih rest up sound
        refine ⟨es ++ fs, by rw [journal', journal, List.append_assoc], fun calm' => ?_⟩
        exact Journal.lonely_append.mpr ⟨(lonely calm).1,
          lonely' fun f mem => calm' f (List.mem_append_right _ mem)⟩
      -- the disruptive frame is among all that came in
      · obtain ⟨fs, journal', -⟩ := (conduct_path.awaitReply n rest).linkAfter sound
        refine ⟨es ++ fs, by rw [journal', journal, List.append_assoc], fun calm' => ?_⟩
        exact absurd (fun f mem => calm' f (List.mem_append_left _ mem)) calm
    unfold awaitReply at run
    split at run
    · cases run
    · rename_i polled
      exact later polled (by simp) run
    · rename_i polled
      exact later polled (by simp) run
    · rename_i polled
      cases run
      exact last polled
    · rename_i polled
      cases run
      exact last polled

theorem Begins.roundTrip {s b t : Session κ η} {patience : Nat} {reply : Option Bytes}
    (begins : Begins s b) (sound : s.Sound) (run : awaitReply patience b = some (reply, t)) :
    ∃ w : Journal η, t.journal = b.journal ++ w ∧ RoundTrip reply w := by
  have up : b.status.isUp = true := begins.isUp sound
  have sound : b.Sound := Path.sound begins.path sound
  obtain ⟨w, journal, link⟩ := (conduct_path.awaitReply patience run).linkAfter sound
  have same {w' : Journal η} (journal' : t.journal = b.journal ++ w') : w' = w :=
    List.append_cancel_left (journal'.symm.trans journal)
  rw [up] at link
  refine ⟨w, journal, Journal.keepsTo_iff_lonely link fun answered => ?_, ?_, fun came => ?_⟩
  · obtain ⟨payload, rfl⟩ := Option.ne_none_iff_exists'.mp answered
    obtain ⟨-, -, -, -, -, up⟩ := awaitReply_answer sound run
    exact up
  · rintro payload rfl
    obtain ⟨w', f, journal', found, unmapped, -⟩ := awaitReply_answer sound run
    exact ⟨w', f, (same journal').symm, found, unmapped⟩
  · obtain ⟨w', journal', lonely⟩ := awaitReply_lonely run up sound
    cases same journal'
    refine Classical.byContradiction fun calm => came (lonely fun f mem disrupts => ?_)
    exact calm ⟨f, mem, disrupts⟩

/-- Every wait, of a call or of the delivery of an init callback, in the course of any operation on
any session that can be reached, keeps to its connection exactly if nobody is let in before it is
over. A call has a value only if it went out, and then the value is read off the answer. A wait that
finds no link and nobody at the door ends. -/
theorem wait_keepsTo_iff {r s : Session κ η} (reached : Reachable r)
    (path : Path r s) (patience : Nat) :
    (∀ b t reply, Begins s b → awaitReply patience b = some (reply, t) →
      ∃ w : Journal η, t.journal = b.journal ++ w ∧ RoundTrip reply w) ∧
    (∀ caller name params value t, s.call patience caller name params = some (value, t) →
      (value = none ∧ ∀ b, ¬ Calls caller name params s b) ∨
        ∃ b reply u, Calls caller name params s b ∧ awaitReply patience b = some (reply, u) ∧
          value = replyValue reply ∧ t = u.noteSilence name reply) ∧
    (∀ u : Session κ η, u.status.isUp = false → (u.connect).1 = false →
      awaitReply (patience + 1) u = some (none, u.connect.2)) := by
  obtain ⟨deeds, run⟩ := reached
  have sound : s.Sound := Path.sound path run.sound
  refine ⟨fun b t reply begins waited => ?_, fun _ _ _ _ _ => call_cases, fun u => ?_⟩
  · exact begins.roundTrip sound waited
  · exact awaitReply_alone patience

/-- The first runtime registers a callback and starts; the second answers a call. -/
def relay : Scripted.Wire :=
  { peers := [.visit [.frame ⟨Opcode.registerCall, [79, 110, 70, 111, 111, 0]⟩,
      .frame ⟨Opcode.start, []⟩], .visit [.frame ⟨32, [1, 42, 0, 0, 0]⟩]] }

/-- When the runtime answers, the call keeps to its connection. -/
theorem keepsTo_launched : ∃ s b u : Session Scripted.Wire Scripted.Catalog, ∃ reply w,
    Reachable s ∧ Calls 0 "OnFoo" [] s b ∧ awaitReply 9 b = some (reply, u) ∧
      replyValue reply = some 7 ∧ u.journal = b.journal ++ w ∧ w.KeepsTo reply := by
  let items : List Scripted.Item := [.frame ⟨32, [1, 7, 0, 0, 0]⟩]
  have shown : ((launched relay items).bind fun s => (s.call 9 0 "OnFoo" []).map fun (value, t) =>
      (value, decide (t.journal.arrivals = s.journal.arrivals))) = some (some 7, true) := by decide
  obtain ⟨s, started, shown⟩ := Option.bind_eq_some_iff.mp shown
  obtain ⟨⟨value, t⟩, called, shown⟩ := Option.map_eq_some_iff.mp shown
  obtain ⟨rfl, same⟩ := Prod.mk.inj shown
  have waits := wait_keepsTo_iff (reachable_launched rfl started) .refl 9
  rcases waits.2.1 _ _ _ _ _ called with ⟨absent, -⟩ | ⟨b, reply, u, calls, waited, value, rfl⟩
  · cases absent
  · obtain ⟨w, journal, trip⟩ := waits.1 b u reply (.inl ⟨_, _, _, calls⟩) waited
    rw [decide_eq_true_eq, calls.arrivals journal reply] at same
    have lonely : w.Lonely := (Journal.lonely_iff_arrivals w).mpr (by omega)
    exact ⟨s, b, u, reply, w, reachable_launched rfl started, calls, waited, value.symm, journal,
      trip.keeps.mpr lonely⟩

/-- When the runtime asks for a reconnect and another stands at the door, the answer to the call
comes from that one. -/
theorem not_keepsTo_launched : ∃ s b u : Session Scripted.Wire Scripted.Catalog, ∃ reply w,
    Reachable s ∧ Calls 0 "OnFoo" [] s b ∧ awaitReply 9 b = some (reply, u) ∧
      replyValue reply = some 42 ∧ u.journal = b.journal ++ w ∧ ¬ w.KeepsTo reply := by
  let items : List Scripted.Item := [.frame ⟨Opcode.reconnect, []⟩]
  have shown : ((launched relay items).bind fun s => (s.call 9 0 "OnFoo" []).map fun (value, t) =>
      (value, decide (t.journal.arrivals = s.journal.arrivals + 1))) = some (some 42, true) := by
    decide
  obtain ⟨s, started, shown⟩ := Option.bind_eq_some_iff.mp shown
  obtain ⟨⟨value, t⟩, called, shown⟩ := Option.map_eq_some_iff.mp shown
  obtain ⟨rfl, more⟩ := Prod.mk.inj shown
  have reached := reachable_launched rfl started
  have sound : s.Sound := reached.choose_spec.sound
  rcases call_cases called with ⟨absent, -⟩ | ⟨b, reply, u, calls, waited, value, rfl⟩
  · cases absent
  · obtain ⟨w, journal, trip⟩ := Begins.roundTrip (.inl ⟨_, _, _, calls⟩) sound waited
    rw [decide_eq_true_eq, calls.arrivals journal reply] at more
    refine ⟨s, b, u, reply, w, reached, calls, waited, value.symm, journal, fun keeps => ?_⟩
    have lonely := (Journal.lonely_iff_arrivals w).mp (trip.keeps.mp keeps)
    omega

end Session

end HostLink
