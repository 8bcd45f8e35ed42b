import HostLink.Proofs.Session.Alike
import HostLink.Proofs.Session.Bisimulation
import HostLink.Scripted.Catalog

/-!
# HostLink.Proofs.Session.Undisturbed

Frames that ask for nothing that could be done do not disturb a session. Take two channels of which
one goes along with the other, apart from such frames that come in between. Over the one, a look of
a session may find some of them first; it serves them and is alike to the session over the other
channel after each (`Alike.serveInert`, `Alike.looks`). What comes then is served in the same way by
both (`Alike.serveFrame`), so that sessions that are alike are bisimilar (`bisimulation_alike`).

* `seen_inserted_iff` — whoever looks at a session between the deeds of its host sees the same with
  either channel.
-/

namespace HostLink.Session

variable {κ κ' η : Type} [Channel κ] [Channel κ'] [Host η]

/-! ## Serving -/

/-- A command that is served at once on both sides. -/
theorem matched_serve {R : Session κ η → Session κ' η → Prop} {s t : Session κ η}
    {s' t' : Session κ' η} {f : Frame} {command : Command}
    (decoded : Command.decode f = .ok (some command))
    (served : ∀ await : Wait κ η, s.serve await command = some t)
    (served' : ∀ await : Wait κ' η, s'.serve await command = some t') (related : R t t') :
    Matched R (fun await => s.serveFrame await f) fun await => s'.serveFrame await f := by
  have now (await : Wait κ η) : s.serveFrame await f = some (.served, t) := by
    simp only [serveFrame, decoded, served]
  have now' (await : Wait κ' η) : s'.serveFrame await f = some (.served, t') := by
    simp only [serveFrame, decoded, served']
  exact .now now now' related

namespace Alike

variable {ins : Insertion κ κ'} {s : Session κ η} {s' : Session κ' η} {f : Frame}

/-- A start that wants the init callback is served at once on both sides, or asks for a wait on
both. -/
theorem serveInit (alike : Alike ins.rel s s')
    (decoded : Command.decode f = .ok (some (.start .deliverInit))) :
    Matched (Alike ins.rel) (fun await => s.serveFrame await f)
      fun await => s'.serveFrame await f := by
  cases host : s.status.hostInit with
  | false =>
    have host' : s'.status.hostInit = false := by rw [alike.status, host]
    exact matched_serve decoded (fun await => serve_deliverInit_early await host)
      (fun await => serve_deliverInit_early await host') (alike.begun.note _ _)
  | true =>
    have host' : s'.status.hostInit = true := by rw [alike.status, host]
    cases busy : s.delivering with
    | true =>
      have busy' : s'.delivering = true := by rw [alike.delivering, busy]
      exact matched_serve decoded (fun await => serve_deliverInit_busy await host busy)
        (fun await => serve_deliverInit_busy await host' busy')
        ((alike.begun.note _ _).note _ _)
    | false =>
      have busy' : s'.delivering = false := by rw [alike.delivering, busy]
      have eq := fun await : Wait κ η => serve_deliverInit_idle await host busy
      have eq' := fun await : Wait κ' η => serve_deliverInit_idle await host' busy'
      have same : s'.delivered.callPayload 0 s'.settings.initCallback [] =
          s.delivered.callPayload 0 s.settings.initCallback [] := by
        rw [alike.settings, alike.delivered.callPayload]
      cases ready : s.delivered.callPayload 0 s.settings.initCallback [] with
      | error e =>
        rw [ready] at same
        exact matched_serve decoded (fun await => by rw [eq, ready])
          (fun await => by rw [eq', same]) (alike.delivered.note _ _)
      | ok called =>
        rw [ready] at same
        cases called with
        | none =>
          exact matched_serve decoded (fun await => by rw [eq, ready])
            (fun await => by rw [eq', same]) alike.delivered
        | some payload =>
          refine .asks ?_ ?_ (alike.asking payload)
          · intro await
            simp only [Session.serveFrame, decoded, eq, ready]
            cases await (s.asking payload) <;> rfl
          · intro await
            simp only [Session.serveFrame, decoded, eq', same]
            cases await (s'.asking payload) <;> rfl

/-- Both serve a frame in the same way. -/
theorem serveFrame (alike : Alike ins.rel s s') (f : Frame) :
    Matched (Alike ins.rel) (fun await => s.serveFrame await f)
      fun await => s'.serveFrame await f := by
  cases decoded : Command.decode f with
  | error e =>
    let n : Notice := .malformed f.opcode e
    have now (await : Wait κ η) : s.serveFrame await f = some (.served, s.note n) := by
      simp only [Session.serveFrame, decoded, n]
    have now' (await : Wait κ' η) : s'.serveFrame await f = some (.served, s'.note n) := by
      simp only [Session.serveFrame, decoded, n]
    exact .now now now' (alike.note n n)
  | ok command =>
    cases command with
    | none =>
      have now (await : Wait κ η) : s.serveFrame await f = some (.answer f.payload, s) := by
        simp only [Session.serveFrame, decoded]
      have now' (await : Wait κ' η) : s'.serveFrame await f = some (.answer f.payload, s') := by
        simp only [Session.serveFrame, decoded]
      exact .now now now' alike
    | some command =>
      cases command with
      | ping => exact matched_serve decoded (fun _ => rfl) (fun _ => rfl) (alike.send _ _)
      | print text => exact matched_serve decoded (fun _ => rfl) (fun _ => rfl) (alike.note _ _)
      | alive => exact matched_serve decoded (fun _ => rfl) (fun _ => rfl) alike
      | registerCall record =>
        exact matched_serve decoded (fun _ => rfl) (fun _ => rfl) (alike.enterCallback record)
      | findNative caller name =>
        exact matched_serve decoded (fun _ => rfl) (fun _ => rfl) (alike.answerLookup caller name)
      | invokeNative caller request =>
        exact matched_serve decoded (fun _ => rfl) (fun _ => rfl)
          (alike.answerInvocation caller request)
      | reconnect =>
        exact matched_serve decoded (fun _ => rfl) (fun _ => rfl)
          (alike.expecting.disconnect none true)
      | disconnect =>
        exact matched_serve decoded (fun _ => rfl) (fun _ => rfl)
          ((alike.note .remoteDisconnecting .remoteDisconnecting).restate
            Status.disconnectRequested)
      | start mode =>
        cases mode with
        | waitForHost =>
          exact matched_serve decoded (fun _ => rfl) (fun _ => rfl) (alike.begun.note _ _)
        | restart =>
          exact matched_serve decoded (fun _ => rfl) (fun _ => rfl) (alike.begun.note _ _).restart
        | unknown mode =>
          exact matched_serve decoded (fun _ => rfl) (fun _ => rfl) (alike.begun.note _ _)
        | deliverInit => exact alike.serveInit decoded

omit [Channel κ] in
/-- A frame that asks for nothing that could be done is served at once, and leaves the session alike
to what it was alike to. -/
theorem serveInert {rel : κ → κ' → Prop} (alike : Alike rel s s') (inert : f.Inert) :
    ∃ t', (∀ await, s'.serveFrame await f = some (.served, t')) ∧ Alike rel s t' := by
  rcases inert.decode_cases with ⟨text, decoded⟩ | decoded | ⟨e, decoded⟩ |
    ⟨record, e, decoded, rejected⟩
  · refine ⟨s'.note (.remote text), ?_, alike.noteRight _⟩
    intro await
    simp only [Session.serveFrame, decoded, Session.serve]
  · refine ⟨s', ?_, alike⟩
    intro await
    simp only [Session.serveFrame, decoded, Session.serve]
  · refine ⟨s'.note (.malformed f.opcode e), ?_, alike.noteRight _⟩
    intro await
    simp only [Session.serveFrame, decoded]
  · refine ⟨s'.note (.registrationRejected e), ?_, alike.noteRight _⟩
    intro await
    simp only [Session.serveFrame, decoded, Session.serve, Session.enterCallback,
      Callback.Table.register, rejected]

end Alike

/-! ## Looks -/

/-- A look at an open channel. -/
def look (await : Wait κ η) (s : Session κ η) : Option (Step × Session κ η) :=
  match Channel.receive s.channel with
  | (.frame f, c) => ({ s with channel := c }.hear f).serveFrame await f
  | (.dead, c) => some (.dead, { s with channel := c }.disconnect (some connectionLost) false)
  | (.nothing, c) => some (.nothing, { s with channel := c })

theorem poll_look (await : Wait κ η) {s u : Session κ η}
    (kept : (s.status.isUp && !Channel.isConnected s.channel) = false)
    (connect : s.connect = (true, u)) : s.poll await = u.look await := by
  unfold poll look
  rw [if_neg (by simp [kept]), connect]
  dsimp only
  rcases Channel.receive u.channel with ⟨r, c⟩
  cases r <;> rfl

theorem poll_look_connected (await : Wait κ η) {s : Session κ η}
    (connected : Channel.isConnected s.channel = true) : s.poll await = s.look await :=
  poll_look await (by simp [connected]) (if_pos connected)

namespace Alike

variable {ins : Insertion κ κ'} {s : Session κ η} {s' : Session κ' η}

/-- Looks that find the same come to the same. -/
theorem look {rel : κ → κ' → Prop} (alike : Alike rel s s') {r : Received} {c : κ} {c' : κ'}
    (receive : Channel.receive s.channel = (r, c)) (receive' : Channel.receive s'.channel = (r, c'))
    (same : ins.rel c c') : Matched (Alike ins.rel) s.look s'.look := by
  have moved := alike.rechannel same
  unfold Session.look
  simp only [receive, receive']
  cases r with
  | frame f => exact (moved.hear f).serveFrame f
  | nothing => exact .now (fun _ => rfl) (fun _ => rfl) moved
  | dead => exact .now (fun _ => rfl) (fun _ => rfl) (moved.disconnect (some connectionLost) false)

/-- The inert frames that come first make for a detour. -/
theorem looks {r : Received} {rest : κ} {d : κ'} (ripens : Ripens ins.rel r rest d)
    (receive : Channel.receive s.channel = (r, rest)) {t' : Session κ' η}
    (alike : Alike (fun _ c' => c' = d) s s') (polls : ∀ await, t'.poll await = s'.look await) :
    ∃ k u', Detour k t' u' ∧ Matched (Alike ins.rel) s.look u'.poll := by
  induction ripens generalizing s' t' with
  | @now c _ h same =>
    have channel : s'.channel = c := alike.channel
    have matched : Matched (Alike ins.rel) s.look s'.look :=
      alike.look receive (by rw [channel, h]) same
    refine ⟨0, t', .refl t', ?_⟩
    rw [← funext polls] at matched
    exact matched
  | @inert c d f inert h kept _ ih =>
    have channel : s'.channel = c := alike.channel
    -- the frame has been taken, and what is left on the channel ripens as before
    have heard : Alike (fun _ c' => c' = d) s ({ s' with channel := d }.hear f) :=
      (alike.rechannel (c := s.channel) rfl).hearRight f
    obtain ⟨u', served, left⟩ := heard.serveInert inert
    have polled : ∀ await, t'.poll await = some (.served, u') := by
      intro await
      rw [polls]
      unfold Session.look
      rw [channel, h]
      exact served await
    have there : Channel.isConnected u'.channel = true := by rw [left.channel, kept]
    obtain ⟨k, v', detour, matched⟩ := ih left fun await => poll_look_connected await there
    exact ⟨k + 1, v', .served polled detour, matched⟩

/-- After a detour on the one side, a look on either side comes to the same. -/
theorem polls (alike : Alike ins.rel s s') :
    ∃ k u', Detour k s' u' ∧ Matched (Alike ins.rel) s.poll u'.poll := by
  have same : (s'.status.isUp && !Channel.isConnected s'.channel) =
      (s.status.isUp && !Channel.isConnected s.channel) := by
    rw [alike.status, ins.isConnected alike.channel]
  cases lost : s.status.isUp && !Channel.isConnected s.channel with
  | true =>
    rw [lost] at same
    exact ⟨0, s', .refl s', .now (fun _ => if_pos lost) (fun _ => if_pos same)
      (alike.disconnect (some connectionLost) false)⟩
  | false =>
    rw [lost] at same
    obtain ⟨both, connected⟩ := alike.connect
    rcases connect : s.connect with ⟨came, u⟩
    rcases connect' : s'.connect with ⟨came', u'⟩
    rw [connect, connect'] at both connected
    obtain rfl : came' = came := both
    cases came' with
    | false =>
      have now (await : Wait κ η) : s.poll await = some (.dead, u) := by
        unfold poll
        rw [if_neg (by simp [lost]), connect]
      have now' (await : Wait κ' η) : s'.poll await = some (.dead, u') := by
        unfold poll
        rw [if_neg (by simp [same]), connect']
      exact ⟨0, s', .refl s', .now now now' connected⟩
    | true =>
      have ripens := ins.receive connected.channel
      have there : Alike (fun _ c' => c' = u'.channel) u u' :=
        connected.rechannel (c := u.channel) rfl
      obtain ⟨k, v', detour, matched⟩ :=
        looks ripens rfl there fun await => poll_look await same connect'
      refine ⟨k, v', detour, ?_⟩
      rw [← funext fun await => poll_look await lost connect] at matched
      exact matched

end Alike

theorem bisimulation_alike (ins : Insertion κ κ') :
    Bisimulation (Alike ins.rel : Session κ η → Session κ' η → Prop) where
  polls {s s'} alike := by
    obtain ⟨k, u', detour, matched⟩ := alike.polls
    exact ⟨0, s, k, u', .refl s, detour, matched⟩
  resumed reply alike := alike.resumed reply
  strayed size alike := alike.note _ _
  beaten alike := alike.heartbeat
  observed name alike := alike.observe name
  gated name alike := alike.gate name
  written caller name params alike := alike.callPayload caller name params
  unforwarded name e alike := alike.note _ _
  called payload alike := alike.send _ payload
  silent name reply alike := alike.noteSilence name reply
  connected alike := alike.connect
  ended context expected alike := alike.disconnect context expected

/-! ## What is seen between the host's deeds -/

/-- What is to be seen of a session between the deeds of its host. -/
structure View (η : Type) where
  /-- What was given back for the last deed. -/
  returned : Option Return
  connected : Bool
  sent : List Frame
  commands : List String
  reports : List Report
  holding : Holding
  status : Status
  natives : Native.Table η
  callbacks : Callback.Table

def view (returned : Option Return) (s : Session κ η) : View η where
  returned := returned
  connected := s.isConnected
  sent := s.journal.sent
  commands := s.journal.commands
  reports := s.journal.reports
  holding := s.holding
  status := s.status
  natives := s.natives
  callbacks := s.callbacks

/-- What happens to a session next: the host does something, or the world has its way with the
channel and the host. -/
inductive Turn (κ η : Type) where
  | act (a : Act)
  | passed (c : κ) (h : η)

/-- The host does the same, and the world does what goes along. -/
inductive Turn.Goes (rel : κ → κ' → Prop) : Turn κ η → Turn κ' η → Prop where
  | act (a : Act) : Goes rel (.act a) (.act a)
  | passed {c : κ} {c' : κ'} (h : η) (same : rel c c') : Goes rel (.passed c h) (.passed c' h)

/-- What is seen of a session while a story takes its course, before each turn and at the end. -/
inductive Seen : Option Return → List (Turn κ η) → Session κ η → List (View η) → Prop where
  | ended (returned : Option Return) (s : Session κ η) : Seen returned [] s [s.view returned]
  | did {returned : Option Return} {act : Act} {story : List (Turn κ η)} {s t : Session κ η}
      {ret : Return} {views : List (View η)} (patience : Nat)
      (h : s.respond patience act = some (ret, t)) (rest : Seen (some ret) story t views) :
      Seen returned (.act act :: story) s (s.view returned :: views)
  | passed {returned : Option Return} {c : κ} {h : η} {story : List (Turn κ η)} {s : Session κ η}
      {views : List (View η)} (rest : Seen none story { s with channel := c, host := h } views) :
      Seen returned (.passed c h :: story) s (s.view returned :: views)

namespace Alike

variable {ins : Insertion κ κ'} {s : Session κ η} {s' : Session κ' η}

omit [Channel κ] [Channel κ'] [Host η] in
/-- What is picked out of the shown events is the same on both sides. -/
theorem picked {rel : κ → κ' → Prop} (alike : Alike rel s s') {α : Type} {pick : Event η → Option α}
    (mute : ∀ e, e.isShown = false → pick e = none) :
    s'.journal.filterMap pick = s.journal.filterMap pick := by
  have only (past : List (Event η)) :
      past.reverse.filterMap pick = ((Journal.shown past).filterMap pick).reverse := by
    rw [List.filterMap_reverse, Journal.shown, List.filterMap_filter]
    congr 2
    funext e
    cases shown : e.isShown with
    | true => rfl
    | false => simp [mute e shown]
  unfold Session.journal
  rw [only, only, alike.shown]

omit [Host η] in
theorem view (alike : Alike ins.rel s s') (returned : Option Return) :
    s'.view returned = s.view returned := by
  have sent : s'.journal.sent = s.journal.sent := alike.picked fun e h => by
    cases e <;> first | rfl | cases h
  have commands : s'.journal.commands = s.journal.commands := alike.picked fun e h => by
    cases e <;> first | rfl | cases h
  have reports : s'.journal.reports = s.journal.reports := alike.picked fun e h => by
    cases e <;> first | rfl | cases h
  have holding : s'.holding = s.holding := by
    cases alike
    rfl
  have natives : s'.natives = s.natives := congrArg Memory.natives alike.memory
  have callbacks : s'.callbacks = s.callbacks := congrArg Memory.callbacks alike.memory
  unfold Session.view
  rw [alike.isConnected, sent, commands, reports, holding, alike.status, natives, callbacks]

omit [Host η] in
/-- New sessions are alike whose detectors are off. -/
theorem make (settings : SessionSettings) (listener : Listener) (host : η)
    (off : settings.pause.enabled = false) {c : κ} {c' : κ'} (rel : ins.rel c c') :
    Alike ins.rel (Session.make settings listener c host : Session κ η)
      (Session.make settings listener c' host) := by
  let blank : Session κ η :=
    { settings, channel := c, host
      status := .initial
      natives := .empty
      callbacks := .empty
      detector := .initial settings.pause
      holding := .initial listener
      delivering := false
      lent := false
      past := [] }
  have both : Alike ins.rel blank (blank.dressed c' (.initial settings.pause) []) :=
    .mk rel off off rfl
  exact ((both.signal .starting).setUp .firstSetupFailed).2

end Alike

/-- More patience gives nothing else back. -/
theorem respond_le {few many : Nat} (h : few ≤ many) {act : Act} {s : Session κ η}
    {r : Return × Session κ η} (run : s.respond few act = some r) :
    s.respond many act = some r := by
  cases act with
  | tick =>
    obtain ⟨t, ticked, eq⟩ := Option.map_eq_some_iff.mp run
    simp only [respond, tick_le h ticked, Option.map_some, eq]
  | call caller name params =>
    obtain ⟨t, called, eq⟩ := Option.map_eq_some_iff.mp run
    simp only [respond, call_le h called, Option.map_some, eq]
  | connect => exact run
  | disconnect context expected => exact run
  | terminate context => exact run

namespace Seen

/-- A story shows one thing. -/
theorem unique {returned : Option Return} {story : List (Turn κ η)} {s : Session κ η}
    {views others : List (View η)} (seen : Seen returned story s views)
    (again : Seen returned story s others) : others = views := by
  induction seen generalizing others with
  | ended returned s =>
    cases again
    rfl
  | @did returned act story s t ret views patience h _ ih =>
    cases again with
    | did patience' h' rest' =>
      have most := respond_le (Nat.le_max_left patience patience') h
      have most' := respond_le (Nat.le_max_right patience patience') h'
      cases most.symm.trans most'
      rw [ih rest']
  | passed _ ih =>
    cases again with
    | passed rest' => rw [ih rest']

/-- What one of two bisimilar sessions shows, the other shows as well. -/
theorem along {R : Session κ η → Session κ' η → Prop} (bisim : Bisimulation R)
    (shows : ∀ {s s'}, R s s' → ∀ returned, s'.view returned = s.view returned)
    {rel : κ → κ' → Prop} (passes : ∀ {s s' c c'}, R s s' → rel c c' → ∀ h,
      R { s with channel := c, host := h } { s' with channel := c', host := h })
    {returned : Option Return} {story : List (Turn κ η)} {s : Session κ η}
    {views : List (View η)} (seen : Seen returned story s views)
    {story' : List (Turn κ' η)} (turns : List.Forall₂ (Turn.Goes rel) story story')
    {s' : Session κ' η} (related : R s s') : Seen returned story' s' views := by
  induction seen generalizing story' s' with
  | ended returned s =>
    cases turns
    rw [← shows related]
    exact .ended returned s'
  | did patience h _ ih =>
    cases turns with
    | cons first others =>
      cases first
      obtain ⟨m, t', responded, last⟩ := bisim.respond related h
      rw [← shows related]
      exact .did m responded (ih others last)
  | passed _ ih =>
    cases turns with
    | cons first others =>
      cases first with
      | passed _ same =>
        rw [← shows related]
        exact .passed (ih others (passes related same _))

end Seen

/-- Take two channels of which one goes along with the other, apart from frames that ask for nothing
that could be done. With the pause detector off, two new sessions over them show the same as long as
their hosts do the same. Whenever a deed comes to an end with the one channel it does with the other;
the same was given back, sent, commanded and reported by then, and the same is remembered. -/
theorem seen_inserted_iff (ins : Insertion κ κ') (settings : SessionSettings) (listener : Listener)
    (host : η) {c : κ} {c' : κ'} {story : List (Turn κ η)} {story' : List (Turn κ' η)}
    (off : settings.pause.enabled = false) (rel : ins.rel c c')
    (turns : List.Forall₂ (Turn.Goes ins.rel) story story') :
    (∀ views, Seen none story (make settings listener c host) views ↔
      Seen none story' (make settings listener c' host) views) ∧
    ∀ views views', Seen none story (make settings listener c host) views →
      Seen none story' (make settings listener c' host) views' → views' = views := by
  have alike : Alike ins.rel (make settings listener c host : Session κ η)
      (make settings listener c' host) := .make settings listener host off rel
  have bisim : Bisimulation (Alike ins.rel : Session κ η → Session κ' η → Prop) :=
    bisimulation_alike ins
  have forth {views : List (View η)}
      (seen : Seen none story (make settings listener c host) views) :
      Seen none story' (make settings listener c' host) views :=
    seen.along bisim (fun alike returned => alike.view returned)
      (fun alike same h => (alike.rechannel same).rehost h) turns alike
  have turns' : List.Forall₂ (Turn.Goes fun c' c => ins.rel c c') story' story := by
    refine turns.flip.imp ?_
    intro turn turn' goes
    cases goes with
    | act a => exact .act a
    | passed h same => exact .passed h same
  have back {views : List (View η)}
      (seen : Seen none story' (make settings listener c' host) views) :
      Seen none story (make settings listener c host) views :=
    seen.along bisim.flip (fun alike returned => (alike.view returned).symm)
      (fun alike same h => (alike.rechannel same).rehost h) turns' alike
  refine ⟨fun views => ⟨forth, back⟩, ?_⟩
  intro views views' seen seen'
  exact (forth seen).unique seen'

/-- Settings without a pause detector. -/
def unhurried : SessionSettings := { pause := { enabled := false } }

/-- A runtime that starts while the host's script runs, answers the init callback, and after a
silence answers a call with seven. -/
def frugal : List Scripted.Item :=
  [.frame ⟨Opcode.registerCall, Utf8.encode "OnGameModeInit" ++ [0]⟩, .frame ⟨Opcode.start, [2]⟩,
    .frame ⟨Opcode.response, []⟩, .nothing, .frame ⟨Opcode.response, [1, 7, 0, 0, 0]⟩]

/-- It does the same, and says a lot meanwhile. -/
def chatty : List Scripted.Item :=
  [.frame ⟨Opcode.print, [104, 105]⟩,
    .frame ⟨Opcode.registerCall, Utf8.encode "OnGameModeInit" ++ [0]⟩, .frame ⟨Opcode.start, [2]⟩,
    .frame ⟨Opcode.invokeNative, [1]⟩, .frame ⟨Opcode.registerCall, [0]⟩,
    .frame ⟨Opcode.response, []⟩, .frame ⟨Opcode.alive, []⟩, .nothing,
    .frame ⟨Opcode.findNative, [1]⟩, .frame ⟨Opcode.response, [1, 7, 0, 0, 0]⟩]

theorem inserted_chatty : Scripted.Item.Inserted frugal chatty := by
  have print : Frame.Inert ⟨Opcode.print, [104, 105]⟩ := .print rfl
  have invocation : Frame.Inert ⟨Opcode.invokeNative, [1]⟩ := .invocation rfl rfl
  have registration : Frame.Inert ⟨Opcode.registerCall, [0]⟩ := .registration rfl rfl
  have alive : Frame.Inert ⟨Opcode.alive, []⟩ := .alive rfl
  have lookup : Frame.Inert ⟨Opcode.findNative, [1]⟩ := .lookup rfl rfl
  exact .inert print (.keep _ (.keep _ (.inert invocation (.inert registration (.keep _
    (.inert alive (.keep _ (.inert lookup (.keep _ .nil)))))))))

/-- The host's script begins before the runtime comes; then the host ticks, and calls again. -/
def errand : List Act :=
  [.call 0 "OnGameModeInit" [], .tick, .call 0 "OnGameModeInit" []]

/-- What is given back for one deed after the other. -/
def answers (patience : Nat) : List Act → Session κ η → Option (List Return)
  | [], _ => some []
  | act :: acts, s =>
    (s.respond patience act).bind fun r => (answers patience acts r.2).map (r.1 :: ·)

theorem seen_answers {patience : Nat} {acts : List Act} {s : Session κ η} {rets : List Return}
    (run : answers patience acts s = some rets) (returned : Option Return) :
    ∃ views, Seen returned (acts.map .act) s views ∧
      views.map View.returned = returned :: rets.map some := by
  induction acts generalizing s rets returned with
  | nil =>
    cases run
    exact ⟨_, .ended returned s, rfl⟩
  | cons act acts ih =>
    obtain ⟨⟨ret, t⟩, responded, run⟩ := Option.bind_eq_some_iff.mp run
    obtain ⟨rest, answered, rfl⟩ := Option.map_eq_some_iff.mp run
    obtain ⟨views, seen, shown⟩ := ih answered (some ret)
    refine ⟨s.view returned :: views, .did patience responded seen, ?_⟩
    simp only [List.map_cons, shown, view]

/-- The runtime talks in the handshake, in the tick and while the host waits for seven. -/
theorem seen_inserted_iff_chatty : ∃ views : List (View Scripted.Catalog),
    Seen none (errand.map .act) (make unhurried .full
      ({ peers := [.visit frugal] } : Scripted.Wire) ({ natives := [] } : Scripted.Catalog)) views ∧
    Seen none (errand.map .act) (make unhurried .full
      ({ peers := [.visit chatty] } : Scripted.Wire) ({ natives := [] } : Scripted.Catalog)) views ∧
    views.map View.returned =
      [none, some (.value none), some .nothing, some (.value (some 7))] := by
  have run : answers 9 errand (make unhurried .full ({ peers := [.visit frugal] } : Scripted.Wire)
      ({ natives := [] } : Scripted.Catalog)) =
        some [.value none, .nothing, .value (some 7)] := by decide
  have goes : Scripted.Wire.insertion.rel { peers := [.visit frugal] }
      { peers := [.visit chatty] } :=
    .mk .nil (.cons (.visit inserted_chatty) .nil) (.inl rfl)
  have turns : List.Forall₂ (Turn.Goes Scripted.Wire.insertion.rel)
      (errand.map .act : List (Turn Scripted.Wire Scripted.Catalog)) (errand.map .act) :=
    .cons (.act _) (.cons (.act _) (.cons (.act _) .nil))
  obtain ⟨views, seen, returned⟩ := seen_answers run none
  have same := (seen_inserted_iff Scripted.Wire.insertion unhurried .full
    ({ natives := [] } : Scripted.Catalog) rfl goes turns).1 views
  exact ⟨views, seen, same.mp seen, returned⟩

end HostLink.Session
