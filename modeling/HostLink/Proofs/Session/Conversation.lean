import HostLink.Proofs.Session.Firm
import HostLink.Proofs.Session.Scan

/-!
# HostLink.Proofs.Session.Conversation

Where a tick or a call finds a script of frames and silences with a death at its end, nobody else at
the door, and sends that succeed (`Conversation`). A session then matches a desk, and each of its
operations does to the session what its counterpart does to the desk (`Matches`).
-/

namespace HostLink

/-- How a channel behaves that has a script to play, and when the script is over: what it plays is
received in order, and then the connection dies; nobody comes to the door. -/
structure Conversation (κ : Type) [Channel κ] where
  plays : List Look → κ → Prop
  /-- There is no connection any more, and this was left unread. -/
  gone : List Look → κ → Prop
  connected {script : List Look} {c : κ} : plays script c → Channel.isConnected c = true
  send {script : List Look} {c : κ} (f : Frame) : plays script c →
    ∃ c', Channel.send f c = (.ok (), c') ∧ plays script c'
  frame {f : Frame} {rest : List Look} {c : κ} : plays (.frame f :: rest) c →
    ∃ c', Channel.receive c = (.frame f, c') ∧ plays rest c'
  nothing {rest : List Look} {c : κ} : plays (.nothing :: rest) c →
    ∃ c', Channel.receive c = (.nothing, c') ∧ plays rest c'
  death {c : κ} : plays [] c →
    ∃ c', Channel.receive c = (.dead, c') ∧ gone [] (Channel.disconnect c')
  disconnect {script : List Look} {c : κ} : plays script c → gone script (Channel.disconnect c)
  closed {rest : List Look} {c : κ} : gone rest c → Channel.isConnected c = false
  setup {rest : List Look} {c : κ} : gone rest c → gone rest (Channel.setup c).2
  alone {rest : List Look} {c : κ} : gone rest c →
    (Channel.connect c).1 ≠ .ok true ∧ gone rest (Channel.connect c).2

/-- What is found, as an item on a wire. -/
def Look.item : Look → Scripted.Item
  | .frame f => .frame f
  | .nothing => .nothing

/-- A wire that plays what is left on it and then dies, with nobody at the door. -/
def Scripted.Wire.conversation : Conversation Scripted.Wire where
  plays script w := w.connected = true ∧ w.sendFail = 0 ∧ w.dieWhenDrained = true ∧ w.peers = [] ∧
    w.inbound = script.map Look.item
  gone _ w := w.connected = false ∧ w.peers = []
  connected h := h.1
  send {_ w} _ h := by
    obtain ⟨connected, sendFail, h⟩ := h
    exact ⟨w, by simp [Channel.send, send, connected, sendFail], connected, sendFail, h⟩
  frame {_ rest w} h := by
    obtain ⟨connected, sendFail, dies, nobody, inbound⟩ := h
    refine ⟨{ w with idle := 0, inbound := rest.map Look.item }, (if_pos connected).trans ?_,
      connected, sendFail, dies, nobody, rfl⟩
    rw [inbound]
    rfl
  nothing {rest w} h := by
    obtain ⟨connected, sendFail, dies, nobody, inbound⟩ := h
    refine ⟨{ w with idle := 0, inbound := rest.map Look.item }, (if_pos connected).trans ?_,
      connected, sendFail, dies, nobody, rfl⟩
    rw [inbound]
    rfl
  death {w} h := by
    obtain ⟨connected, -, dies, nobody, inbound⟩ := h
    refine ⟨{ w with idle := w.idle + 1, inbound := [], connected := false },
      (if_pos connected).trans ?_, rfl, nobody⟩
    rw [inbound]
    simp [play, receiveDrained, dies]
  disconnect h := ⟨rfl, h.2.2.2.1⟩
  closed h := h.1
  setup {_ w} h := by
    unfold Channel.setup
    change (setup w).2.connected = false ∧ (setup w).2.peers = []
    unfold setup
    split <;> exact h
  alone {_ w} h := by
    obtain ⟨closed, nobody⟩ := h
    change (connect w).1 ≠ .ok true ∧ (connect w).2.connected = false ∧ (connect w).2.peers = []
    unfold connect
    cases w.ready with
    | false => exact ⟨by simp, closed, nobody⟩
    | true =>
      rw [nobody]
      exact ⟨by simp, closed, nobody⟩

namespace Session

variable {κ η : Type}

/-- What the session shows on its desk. -/
def desk (s : Session κ η) : Desk η :=
  ⟨s.status, s.natives, s.callbacks, s.host, s.journal.sent, s.journal.received,
    s.journal.commands⟩

/-! ## What is not seen on the desk -/

theorem desk_record (e : Event η) (s : Session κ η) :
    (s.record e).desk = { s.desk with
      sent := s.desk.sent ++ e.sent?.toList
      received := s.desk.received ++ e.received?.toList
      commands := s.desk.commands ++ e.command?.toList } := by
  cases e <;> simp [desk, record, journal, Journal.sent, Journal.received, Journal.commands,
    Event.sent?, Event.received?, Event.command?]

/-- An event that is neither traffic nor a command. -/
theorem desk_mute {e : Event η} (sent : e.sent? = none) (received : e.received? = none)
    (command : e.command? = none) (s : Session κ η) : (s.record e).desk = s.desk := by
  rw [desk_record, sent, received, command]
  simp

theorem desk_recordAll {es : Journal η} (sent : es.sent = []) (received : es.received = [])
    (commands : es.commands = []) (s : Session κ η) : (s.recordAll es).desk = s.desk := by
  have journal : (s.recordAll es).journal = s.journal ++ es := by simp [Session.journal, recordAll]
  unfold Journal.sent at sent
  unfold Journal.received at received
  unfold Journal.commands at commands
  unfold desk
  rw [journal]
  simp [Journal.sent, Journal.received, Journal.commands, sent, received, commands, recordAll]

@[simp] theorem desk_note (n : Notice) (s : Session κ η) : (s.note n).desk = s.desk :=
  desk_mute rfl rfl rfl s

theorem filterMap_mute {α β γ : Type} {f : β → Option γ} {g : α → β} (mute : ∀ a, f (g a) = none)
    (as : List α) : (as.map g).filterMap f = [] := by
  rw [List.filterMap_map]
  exact List.filterMap_eq_nil_iff.mpr fun a _ => mute a

@[simp] theorem desk_noteAll (ns : List Notice) (s : Session κ η) : (s.noteAll ns).desk = s.desk :=
  desk_recordAll (filterMap_mute (fun _ => rfl) ns) (filterMap_mute (fun _ => rfl) ns)
    (filterMap_mute (fun _ => rfl) ns) s

theorem desk_reports (reports : List Report) (s : Session κ η) :
    (s.recordAll (reports.map .report)).desk = s.desk :=
  desk_recordAll (filterMap_mute (fun _ => rfl) reports) (filterMap_mute (fun _ => rfl) reports)
    (filterMap_mute (fun _ => rfl) reports) s

@[simp] theorem desk_signal (e : Lifecycle) (s : Session κ η) : (s.signal e).desk = s.desk :=
  desk_reports _ { s with holding := (s.holding.signal e).1 }

@[simp] theorem desk_setHolding (on : Bool) (s : Session κ η) : (s.setHolding on).desk = s.desk :=
  desk_reports _ { s with holding := (s.holding.set on).1 }

@[simp] theorem desk_noteSilence (name : String) (reply : Option Bytes) (s : Session κ η) :
    (s.noteSilence name reply).desk = s.desk := by
  unfold noteSilence
  split
  · rfl
  · exact desk_note _ s

/-- Nothing has come in when only quiet events were entered. -/
theorem Quietly.received {s t : Session κ η} (quietly : Quietly s t) :
    t.journal.received = s.journal.received := by
  obtain ⟨es, past, quiet⟩ := quietly
  have none_in : Journal.received es.reverse = [] := by
    refine List.filterMap_eq_nil_iff.mpr fun e mem => ?_
    have quiet := quiet e (List.mem_reverse.mp mem)
    cases e with
    | received f => cases quiet
    | _ => rfl
  unfold Journal.received at none_in ⊢
  rw [journal_append es past, List.filterMap_append, none_in, List.append_nil]

theorem parted_view (cause : Cause) (context : Option String) (s : Session κ η) :
    let parted := (s.farewell cause context).forget cause
    parted.channel = s.channel ∧ parted.desk = { s.desk with
      natives := if cause.clearsTables then .empty else s.natives
      callbacks := if cause.clearsTables then .empty else s.callbacks } := by
  have gone (e : Lifecycle) (n : Notice) (natives : Native.Table η) (callbacks : Callback.Table) :
      ({ (s.note n).signal e with natives := natives, callbacks := callbacks } :
        Session κ η).desk = { s.desk with natives := natives, callbacks := callbacks } := by
    have same : ((s.note n).signal e).desk = s.desk := by simp
    exact congrArg (fun d : Desk η => { d with natives := natives, callbacks := callbacks }) same
  cases cause with
  | expected => exact ⟨rfl, gone .disconnected .clientDisconnected s.natives s.callbacks⟩
  | declared => exact ⟨rfl, gone .disconnected .clientDisconnected .empty .empty⟩
  | unexpected => exact ⟨rfl, gone .error (.clientLost (context.getD "")) .empty .empty⟩

theorem channel_noteSilence (name : String) (reply : Option Bytes) (s : Session κ η) :
    (s.noteSilence name reply).channel = s.channel := by
  unfold noteSilence
  split <;> rfl

theorem channel_observe (name : String) (s : Session κ η) :
    (s.observe name).channel = s.channel := by
  unfold observe
  split
  · rfl
  · split <;> rfl

section Channel

variable [Channel κ]

theorem channel_gate (name : String) (s : Session κ η) :
    (s.gate name).2.channel = s.channel := by
  have cleared : (s.cleared name).channel = s.channel := by
    unfold Session.cleared
    split <;> rfl
  cases allowed : s.isConnected && s.status.allows .call with
  | false => rw [gate_shut allowed]
  | true =>
    rw [gate_cleared allowed]
    split <;> exact cleared

theorem setUp_view (failed : Fault → Notice) (s : Session κ η) :
    (s.setUp failed).2.desk = s.desk ∧
      (s.setUp failed).2.channel = (Channel.setup s.channel).2 := by
  unfold setUp
  split
  · rename_i c heq
    exact ⟨desk_mute rfl rfl rfl { s with channel := c }, by rw [heq]; rfl⟩
  · rename_i e c heq
    have recorded := desk_mute (e := .setUp) rfl rfl rfl { s with channel := c }
    exact ⟨(desk_note _ _).trans recorded, by rw [heq]; rfl⟩

theorem disconnect_view (context : Option String) (expected : Bool) {s : Session κ η}
    (up : s.status.isUp = true) :
    (s.disconnect context expected).desk = s.desk.hangUp (s.status.cause expected) ∧
      (s.disconnect context expected).channel =
        (Channel.setup (Channel.disconnect s.channel)).2 := by
  let cause := s.status.cause expected
  let parted := (s.farewell cause context).forget cause
  let closed : Session κ η :=
    { parted with channel := Channel.disconnect parted.channel }.record (.hungUp cause s.memory)
  obtain ⟨channel, desk⟩ := parted_view cause context s
  obtain ⟨renewedDesk, renewedChannel⟩ := setUp_view .renewalFailed closed
  have closedDesk : closed.desk = parted.desk :=
    desk_mute rfl rfl rfl { parted with channel := Channel.disconnect parted.channel }
  have eq : s.disconnect context expected = { (closed.setUp .renewalFailed).2 with
      status := (closed.setUp .renewalFailed).2.status.disconnected cause } := by
    unfold disconnect
    rw [if_pos up]
    rfl
  rw [eq]
  refine ⟨?_, ?_⟩
  · have all := renewedDesk.trans (closedDesk.trans desk)
    exact congrArg (fun d : Desk η => { d with status := d.status.disconnected cause }) all
  · refine renewedChannel.trans ?_
    change (Channel.setup (Channel.disconnect parted.channel)).2 = _
    rw [channel]

/-- The session shows this desk, and its channel is where the script says. -/
structure Matches (conv : Conversation κ) (settings : SessionSettings) (delivering : Bool)
    (d : Desk η) (script : List Look) (s : Session κ η) : Prop where
  settings : s.settings = settings
  delivering : s.delivering = delivering
  desk : s.desk = d
  channel : if d.status.isUp then conv.plays script s.channel else conv.gone script s.channel

namespace Matches

variable {conv : Conversation κ} {settings : SessionSettings} {delivering : Bool} {d : Desk η}
  {script : List Look} {s t : Session κ η}

theorem isUp (m : Matches conv settings delivering d script s) :
    s.status.isUp = d.status.isUp := congrArg (fun d : Desk η => d.status.isUp) m.desk

theorem plays (m : Matches conv settings delivering d script s) (up : d.status.isUp = true) :
    conv.plays script s.channel := by
  have channel := m.channel
  rwa [if_pos up] at channel

theorem gone (m : Matches conv settings delivering d script s) (down : d.status.isUp = false) :
    conv.gone script s.channel := by
  have channel := m.channel
  rwa [if_neg (by simp [down])] at channel

/-- A change that leaves the link and the channel alone. -/
theorem edit (m : Matches conv settings delivering d script s) (firm : Firm s t)
    {d' : Desk η} (desk : t.desk = d') (link : d'.status.link = d.status.link)
    (channel : t.channel = s.channel) : Matches conv settings delivering d' script t where
  settings := firm.settings.trans m.settings
  delivering := firm.delivering.trans m.delivering
  desk := desk
  channel := by
    have same : d'.status.isUp = d.status.isUp := by simp only [Status.isUp, link]
    rw [channel, same]
    exact m.channel

/-- A change that is not seen on the desk. -/
theorem unseen (m : Matches conv settings delivering d script s) (firm : Firm s t)
    (desk : t.desk = s.desk) (channel : t.channel = s.channel) :
    Matches conv settings delivering d script t :=
  m.edit firm (desk.trans m.desk) rfl channel

theorem note (m : Matches conv settings delivering d script s) (n : Notice) :
    Matches conv settings delivering d script (s.note n) :=
  m.unseen ⟨rfl, rfl, rfl⟩ (desk_note n s) rfl

theorem restate (m : Matches conv settings delivering d script s) (status : Status)
    (link : status.link = d.status.link) :
    Matches conv settings delivering { d with status := status } script
      { s with status := status } :=
  m.edit (t := { s with status := status }) ⟨rfl, rfl, rfl⟩
    (congrArg (fun d : Desk η => { d with status := status }) m.desk) link rfl

theorem send (m : Matches conv settings delivering d script s) (up : d.status.isUp = true)
    (opcode : UInt8) (payload : Bytes) :
    Matches conv settings delivering (d.send opcode payload) script (s.send opcode payload) := by
  obtain ⟨c, sent, plays⟩ := conv.send ⟨opcode, payload⟩ (m.plays up)
  have eq : s.send opcode payload =
      { s with channel := c }.record (.sent ⟨opcode, payload⟩ s.status) := by
    simp only [Session.send, sent]
  rw [eq]
  refine ⟨m.settings, m.delivering, ?_, ?_⟩
  · have opened : ({ s with channel := c } : Session κ η).desk = d := m.desk
    rw [desk_record, opened]
    simp [Desk.send, Event.sent?, Event.received?, Event.command?]
  · have same : (d.send opcode payload).status = d.status := rfl
    rw [same, if_pos up]
    exact plays

/-- The end of a connection on a channel that will be over once it is closed. -/
theorem hangUp (same : s.settings = settings) (phase : s.delivering = delivering)
    (shown : s.desk = d) (up : d.status.isUp = true) {rest : List Look}
    (gone : conv.gone rest (Channel.disconnect s.channel)) (context : Option String)
    (expected : Bool) : Matches conv settings delivering (d.hangUp (d.status.cause expected)) rest
      (s.disconnect context expected) := by
  subst same phase shown
  obtain ⟨desk, channel⟩ := disconnect_view context expected (s := s) up
  have firm := firm_disconnect context expected s
  refine ⟨firm.settings, firm.delivering, desk, ?_⟩
  have down : (s.desk.hangUp (s.status.cause expected)).status.isUp = false := by
    cases s.status.cause expected <;> rfl
  change if (s.desk.hangUp (s.status.cause expected)).status.isUp then _ else _
  rw [if_neg (by simp [down]), channel]
  exact conv.setup gone

end Matches

end Channel

end Session

end HostLink
