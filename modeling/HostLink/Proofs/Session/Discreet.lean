import HostLink.Session.Drive

/-!
# HostLink.Proofs.Session.Discreet

What natives ask of the handle makes no difference. A native that asks may be replaced by one that
comes to the same without asking (`Native.discreet`), and the session with such natives is the same
session in all else, except that nothing is noted of requests that were refused
(`Session.discreet`). Whatever is done with the one session comes to the same as with the other;
there is one lemma for each thing that a session does. The natives are run in one place only
(`discreet_answerInvocation`), and what is asked there leaves nothing but notices behind
(`discreet_refused`).
-/

namespace HostLink

/-- Whether a notice is about a request that was refused because the session was in use. -/
def Notice.isRefusal : Notice → Bool
  | .reentrantTick => true
  | .reentrantCall _ => true
  | .reentrantTerminate => true
  | _ => false

/-- A host that is the same in all, except that its natives ask nothing of the handle. -/
structure Discreet (η : Type) where
  host : η

variable {κ η : Type}

/-- The native that comes to the same without asking. -/
def Native.discreet (native : Native η) : Native (Discreet η) := fun args h =>
  .done (native args h.host).refuse.result ⟨(native args h.host).refuse.host⟩

instance [Host η] : Host (Discreet η) where
  findNative name h :=
    ((Host.findNative name h.host).1.map Native.discreet, ⟨(Host.findNative name h.host).2⟩)
  execCommand text h := ⟨Host.execCommand text h.host⟩

def Native.Table.discreet (t : Native.Table η) : Native.Table (Discreet η) :=
  ⟨t.entries.map fun entry => (entry.1, Native.discreet entry.2)⟩

def Memory.discreet (m : Memory η) : Memory (Discreet η) :=
  ⟨m.status, m.natives.discreet, m.callbacks⟩

/-- The same event, unless it is a notice of a refusal. -/
def Event.discreet? : Event η → Option (Event (Discreet η))
  | .notice n => if n.isRefusal then none else some (.notice n)
  | .report r => some (.report r)
  | .setUp => some .setUp
  | .letIn kept => some (.letIn kept.discreet)
  | .hungUp cause kept => some (.hungUp cause kept.discreet)
  | .received f => some (.received f)
  | .sent f status => some (.sent f status)
  | .unsent f status => some (.unsent f status)
  | .asked name answer => some (.asked name (answer.map Native.discreet))
  | .command text => some (.command text)

/-- The session with natives that ask nothing. -/
def Session.discreet (s : Session κ η) : Session κ (Discreet η) where
  settings := s.settings
  channel := s.channel
  host := ⟨s.host⟩
  status := s.status
  natives := s.natives.discreet
  callbacks := s.callbacks
  detector := s.detector
  holding := s.holding
  delivering := s.delivering
  lent := s.lent
  past := s.past.filterMap Event.discreet?

/-! ## Natives -/

namespace Native.Table

theorem index?_discreet (name : String) (t : Table η) : t.discreet.index? name = t.index? name := by
  simp only [index?, discreet, List.findIdx?_map]
  rfl

theorem get?_discreet (handle : Int32) (t : Table η) :
    t.discreet.get? handle = (t.get? handle).map Native.discreet := by
  unfold get?
  split
  · rfl
  · simp only [discreet, List.getElem?_map]
    cases t.entries[handle.toInt.toNat]? <;> rfl

theorem resolve_discreet [Host η] (name : String) (t : Table η) (host : η) :
    t.discreet.resolve name (⟨host⟩ : Discreet η) =
      ⟨(t.resolve name host).lookup, (t.resolve name host).answer.map (·.map Native.discreet),
        (t.resolve name host).table.discreet, ⟨(t.resolve name host).host⟩⟩ := by
  unfold resolve
  rw [index?_discreet]
  cases t.index? name with
  | some i => rfl
  | none =>
    simp only [Host.findNative]
    rcases Host.findNative name host with ⟨_ | native, h⟩
    · rfl
    · have long : t.discreet.length = t.length := by simp [length, discreet]
      simp only [Option.map_some, long]
      split
      · simp [discreet]
      · rfl

theorem find_discreet (request : Bytes) (t : Table η) : t.discreet.find request =
    (t.find request).map fun found => (found.1.discreet, found.2) := by
  unfold find
  cases Cell.Read.cell request with
  | error e => rfl
  | ok r =>
    obtain ⟨handle, args⟩ := r
    dsimp only
    rw [get?_discreet]
    cases t.get? handle <;> rfl

theorem invoke_discreet (request : Bytes) (w : Cell.Writer) (t : Table η) (host : η) :
    t.discreet.invoke request w (⟨host⟩ : Discreet η) =
      ⟨(t.invoke request w host).result, (t.invoke request w host).writer,
        ⟨(t.invoke request w host).host⟩, []⟩ := by
  unfold invoke
  rw [find_discreet]
  cases t.find request <;> rfl

end Native.Table

namespace Session

/-! ## What is the same -/

@[simp] theorem settings_discreet (s : Session κ η) : s.discreet.settings = s.settings := rfl

@[simp] theorem channel_discreet (s : Session κ η) : s.discreet.channel = s.channel := rfl

@[simp] theorem status_discreet (s : Session κ η) : s.discreet.status = s.status := rfl

@[simp] theorem callbacks_discreet (s : Session κ η) : s.discreet.callbacks = s.callbacks := rfl

@[simp] theorem detector_discreet (s : Session κ η) : s.discreet.detector = s.detector := rfl

@[simp] theorem isConnected_discreet [Channel κ] (s : Session κ η) :
    s.discreet.isConnected = s.isConnected := rfl

theorem callPayload_discreet (caller : UInt16) (name : String) (params : List Callback.Param)
    (s : Session κ η) :
    s.discreet.callPayload caller name params = s.callPayload caller name params := rfl

/-! ## Events -/

theorem discreet_record {e : Event η} {e' : Event (Discreet η)} (same : e.discreet? = some e')
    (s : Session κ η) : (s.record e).discreet = s.discreet.record e' := by
  simp [discreet, record, same]

theorem discreet_recordAll (es : Journal η) (s : Session κ η) :
    (s.recordAll es).discreet = s.discreet.recordAll (es.filterMap Event.discreet?) := by
  simp [discreet, recordAll, List.filterMap_append, List.filterMap_reverse]

theorem discreet_note {n : Notice} (other : n.isRefusal = false) (s : Session κ η) :
    (s.note n).discreet = s.discreet.note n :=
  discreet_record (by simp [Event.discreet?, other]) s

theorem discreet_noteAll {ns : List Notice} (others : ∀ n ∈ ns, n.isRefusal = false)
    (s : Session κ η) : (s.noteAll ns).discreet = s.discreet.noteAll ns := by
  have same : (ns.map .notice : Journal η).filterMap Event.discreet? = ns.map .notice := by
    induction ns with
    | nil => rfl
    | cons n ns ih =>
      obtain ⟨first, rest⟩ := List.forall_mem_cons.mp others
      simp [Event.discreet?, first, ih rest]
  rw [noteAll, discreet_recordAll, same]
  rfl

/-- Of requests that were refused nothing is noted. -/
theorem discreet_refused (asked : List Native.Request) (s : Session κ η) :
    (s.noteAll (asked.flatMap refusalNotices)).discreet = s.discreet := by
  have none : ((asked.flatMap refusalNotices).map .notice : Journal η).filterMap Event.discreet? =
      [] := by
    induction asked with
    | nil => rfl
    | cons q asked ih =>
      rw [List.flatMap_cons, List.map_append, List.filterMap_append, ih]
      cases q <;> rfl
  rw [noteAll, discreet_recordAll, none]
  rfl

theorem discreet_reports (rs : List Report) (s : Session κ η) :
    (s.recordAll (rs.map .report)).discreet = s.discreet.recordAll (rs.map .report) := by
  rw [discreet_recordAll, List.filterMap_map]
  have same : Event.discreet? ∘ (Event.report : Report → Event η) = fun r => some (.report r) := rfl
  rw [same, List.filterMap_eq_map']

theorem discreet_signal (e : Lifecycle) (s : Session κ η) :
    (s.signal e).discreet = s.discreet.signal e :=
  discreet_reports (s.holding.signal e).2 { s with holding := (s.holding.signal e).1 }

theorem discreet_setHolding (on : Bool) (s : Session κ η) :
    (s.setHolding on).discreet = s.discreet.setHolding on :=
  discreet_reports (s.holding.set on).2 { s with holding := (s.holding.set on).1 }

/-! ## Connections -/

theorem discreet_farewell (cause : Cause) (context : Option String) (s : Session κ η) :
    (s.farewell cause context).discreet = s.discreet.farewell cause context := by
  cases cause <;> exact (discreet_signal _ _).trans (by rw [discreet_note rfl]; rfl)

theorem discreet_forget (cause : Cause) (s : Session κ η) :
    (s.forget cause).discreet = s.discreet.forget cause := by
  unfold forget
  split <;> rfl

section Link

variable [Channel κ]

theorem discreet_setUp (failed : Fault → Notice) (other : ∀ e, (failed e).isRefusal = false)
    (s : Session κ η) :
    s.discreet.setUp failed = ((s.setUp failed).1, (s.setUp failed).2.discreet) := by
  unfold setUp
  rw [channel_discreet]
  rcases Channel.setup s.channel with ⟨e | _, c⟩
  · dsimp only
    rw [discreet_note (other e)]
    rfl
  · rfl

theorem discreet_make (settings : SessionSettings) (listener : Listener) (channel : κ) (host : η) :
    make settings listener channel (⟨host⟩ : Discreet η) =
      (make settings listener channel host).discreet := by
  let blank : Session κ η :=
    { settings, channel, host
      status := .initial
      natives := .empty
      callbacks := .empty
      detector := .initial settings.pause
      holding := .initial listener
      delivering := false
      lent := false
      past := [] }
  calc make settings listener channel (⟨host⟩ : Discreet η)
      = ((blank.discreet.signal .starting).setUp .firstSetupFailed).2 := rfl
    _ = ((blank.signal .starting).setUp .firstSetupFailed).2.discreet := by
      rw [← discreet_signal, discreet_setUp _ fun _ => rfl]
    _ = (make settings listener channel host).discreet := rfl

theorem discreet_send (opcode : UInt8) (payload : Bytes) (s : Session κ η) :
    (s.send opcode payload).discreet = s.discreet.send opcode payload := by
  unfold send
  rw [channel_discreet]
  rcases Channel.send ⟨opcode, payload⟩ s.channel with ⟨e | _, c⟩
  · exact discreet_note rfl _
  · rfl

theorem isRefusal_notices (settings : SessionSettings) :
    ∀ n ∈ Announcement.notices settings, n.isRefusal = false := by
  unfold Announcement.notices
  split <;> simp [Notice.isRefusal]

theorem discreet_announce (s : Session κ η) : s.announce.discreet = s.discreet.announce := by
  unfold announce
  dsimp only
  rw [settings_discreet, ← discreet_noteAll (isRefusal_notices s.settings)]
  cases (Announcement.ofSettings s.settings).encode with
  | error e => exact discreet_note rfl _
  | ok payload =>
    dsimp only
    rw [discreet_note rfl, discreet_note rfl, discreet_send]

theorem discreet_welcome (s : Session κ η) : s.welcome.discreet = s.discreet.welcome := by
  unfold welcome
  dsimp only
  rw [discreet_announce, discreet_note rfl, ← discreet_signal]
  rfl

theorem discreet_prepare (s : Session κ η) :
    s.discreet.prepare = (s.prepare.1, s.prepare.2.discreet) := by
  unfold prepare
  rw [channel_discreet]
  by_cases ready : Channel.isReady s.channel = true
  · rw [if_pos ready, if_pos ready]
  · rw [if_neg ready, if_neg ready]
    exact discreet_setUp _ (fun _ => rfl) s

theorem discreet_connect (s : Session κ η) :
    s.discreet.connect = (s.connect.1, s.connect.2.discreet) := by
  unfold connect
  rw [channel_discreet]
  by_cases connected : Channel.isConnected s.channel = true
  · rw [if_pos connected, if_pos connected]
  · rw [if_neg connected, if_neg connected, discreet_prepare]
    rcases s.prepare with ⟨_ | _, t⟩
    · rfl
    · dsimp only
      rw [channel_discreet]
      rcases Channel.connect t.channel with ⟨e | _ | _, c⟩
      · dsimp only
        rw [discreet_note rfl]
        rfl
      · rfl
      · dsimp only
        rw [discreet_welcome]
        rfl

theorem discreet_renewChannel (cause : Cause) (kept : Memory η) (s : Session κ η) :
    (s.renewChannel cause kept).discreet = s.discreet.renewChannel cause kept.discreet := by
  let closed := { s with channel := Channel.disconnect s.channel }.record (.hungUp cause kept)
  have renewed := discreet_setUp .renewalFailed (fun _ => rfl) closed
  exact (congrArg Prod.snd renewed).symm

theorem discreet_disconnect (context : Option String) (expected : Bool) (s : Session κ η) :
    (s.disconnect context expected).discreet = s.discreet.disconnect context expected := by
  unfold disconnect
  dsimp only
  rw [status_discreet]
  by_cases up : s.status.isUp = true
  · rw [if_pos up, if_pos up]
    let cause := s.status.cause expected
    let ended (t : Session κ (Discreet η)) : Session κ (Discreet η) :=
      { t with status := t.status.disconnected cause }
    have renewed := discreet_renewChannel cause s.memory ((s.farewell cause context).forget cause)
    rw [discreet_forget, discreet_farewell] at renewed
    exact congrArg ended renewed
  · rw [if_neg up, if_neg up]

end Link

/-! ## Frames -/

section Serve

theorem discreet_enterCallback (record : Bytes) (s : Session κ η) :
    (s.enterCallback record).discreet = s.discreet.enterCallback record := by
  unfold enterCallback
  rw [callbacks_discreet]
  rcases s.callbacks.register record with e | ⟨name, entered⟩
  · exact discreet_note rfl s
  · dsimp only
    rw [discreet_note rfl, discreet_note rfl]
    rfl

theorem discreet_noteSilence (callback : String) (reply : Option Bytes) (s : Session κ η) :
    (s.noteSilence callback reply).discreet = s.discreet.noteSilence callback reply := by
  unfold noteSilence
  split
  · rfl
  · exact discreet_note rfl s

theorem discreet_restart [Host η] (s : Session κ η) : s.restart.discreet = s.discreet.restart := by
  unfold restart
  rw [status_discreet]
  by_cases host : s.status.hostInit = true
  · rw [if_pos host, if_pos host]
    dsimp only
    rw [← discreet_note rfl]
    rfl
  · rw [if_neg host, if_neg host]

variable [Channel κ]

theorem isRefusal_lookupNotices (name : String) (found : Native.Lookup) :
    ∀ n ∈ lookupNotices name found, n.isRefusal = false := by
  cases found <;> simp [lookupNotices, Notice.isRefusal]

theorem discreet_answerLookup [Host η] (caller : UInt16) (name : String) (s : Session κ η) :
    (s.answerLookup caller name).discreet = s.discreet.answerLookup caller name := by
  have resolved : s.discreet.natives.resolve name s.discreet.host = _ :=
    Native.Table.resolve_discreet name s.natives s.host
  unfold answerLookup
  rw [resolved]
  rcases s.natives.resolve name s.host with ⟨found, answer, natives, host⟩
  have others := isRefusal_lookupNotices name found
  let looked := { s with natives := natives, host := host }
  dsimp only
  cases LookupAnswer.encode ⟨caller, found.handle?⟩ with
  | error e =>
    cases answer with
    | none => exact (discreet_note rfl _).trans (congrArg _ (discreet_noteAll others looked))
    | some answer =>
      exact (discreet_note rfl _).trans
        (congrArg _ (discreet_noteAll others (looked.record (.asked name answer))))
  | ok payload =>
    cases answer with
    | none => exact (discreet_send _ _ _).trans (congrArg _ (discreet_noteAll others looked))
    | some answer =>
      exact (discreet_send _ _ _).trans
        (congrArg _ (discreet_noteAll others (looked.record (.asked name answer))))

/-- The reply is the same, and nothing is noted of what the native asked. -/
theorem discreet_answerInvocation (caller : UInt16) (request : Bytes) (s : Session κ η) :
    (s.answerInvocation caller request).discreet = s.discreet.answerInvocation caller request := by
  unfold answerInvocation
  rw [settings_discreet]
  cases (Cell.Writer.empty s.settings.maxPayloadSize.toNat).put (.u16 caller) with
  | error e => exact discreet_note rfl s
  | ok w =>
    have invoked : s.discreet.natives.invoke request w s.discreet.host = _ :=
      Native.Table.invoke_discreet request w s.natives s.host
    dsimp only
    rw [invoked]
    rcases s.natives.invoke request w s.host with ⟨result, w, host, asked⟩
    have other : (invocationNotice request.length result).isRefusal = false := by
      cases result <;> rfl
    -- what the native asked is noted on the one side only
    have refused := discreet_refused asked { s with host := host }
    dsimp only
    rw [discreet_send, discreet_note other, refused]
    rfl

/-- The one wait comes to the same as the other. -/
def Wait.AlsoDiscreet (await : Wait κ η) (await' : Wait κ (Discreet η)) : Prop :=
  ∀ s, await' s.discreet = (await s).map fun r => (r.1, r.2.discreet)

variable {await : Wait κ η} {await' : Wait κ (Discreet η)}

theorem discreet_deliverInit (waits : Wait.AlsoDiscreet await await') (s : Session κ η) :
    s.discreet.deliverInit await' = (s.deliverInit await).map discreet := by
  unfold deliverInit
  by_cases busy : s.delivering = true
  · rw [if_pos busy, if_pos (show s.discreet.delivering = true from busy), Option.map_some,
      discreet_note rfl]
  · rw [if_neg busy, if_neg (show ¬ s.discreet.delivering = true from busy)]
    let t := { s with status := s.status.initDelivered }
    have called : { s.discreet with status := s.discreet.status.initDelivered }.callPayload 0
        s.discreet.settings.initCallback [] = t.callPayload 0 s.settings.initCallback [] := rfl
    dsimp only
    rw [called]
    rcases t.callPayload 0 s.settings.initCallback [] with e | _ | payload
    · exact congrArg some (discreet_note rfl t).symm
    · rfl
    · have asked := waits ({ t with delivering := true }.send Opcode.publicCall payload)
      rw [discreet_send] at asked
      dsimp only [discreet, t] at asked ⊢
      rw [asked]
      generalize await _ = waited
      rcases waited with _ | ⟨reply, u⟩
      · rfl
      · exact congrArg some
          (discreet_noteSilence u.settings.initCallback reply { u with delivering := false }).symm

variable [Host η]

theorem discreet_serveStart (waits : Wait.AlsoDiscreet await await') (mode : StartMode)
    (s : Session κ η) :
    s.discreet.serveStart await' mode = (s.serveStart await mode).map discreet := by
  let begun := { s.note .remoteStarted with status := s.status.remoteStarted }
  cases mode with
  | waitForHost => exact congrArg some (discreet_note rfl begun).symm
  | restart => exact congrArg some (discreet_restart (begun.note .startsRestarting)).symm
  | unknown mode => exact congrArg some (discreet_note rfl begun).symm
  | deliverInit =>
    let faking := begun.note .startsFaking
    by_cases host : faking.status.hostInit = true
    · calc s.discreet.serveStart await' .deliverInit
          = faking.discreet.deliverInit await' := if_pos host
        _ = (faking.deliverInit await).map discreet := discreet_deliverInit waits faking
        _ = (s.serveStart await .deliverInit).map discreet := congrArg _ (if_pos host).symm
    · calc s.discreet.serveStart await' .deliverInit
          = some faking.discreet := if_neg host
        _ = (some faking).map discreet := rfl
        _ = (s.serveStart await .deliverInit).map discreet := congrArg _ (if_neg host).symm

theorem discreet_serve (waits : Wait.AlsoDiscreet await await') (command : Command)
    (s : Session κ η) : s.discreet.serve await' command = (s.serve await command).map discreet := by
  cases command with
  | ping => exact congrArg some (discreet_send _ _ s).symm
  | print text => exact congrArg some (discreet_note rfl s).symm
  | alive => rfl
  | registerCall record => exact congrArg some (discreet_enterCallback record s).symm
  | findNative caller name => exact congrArg some (discreet_answerLookup caller name s).symm
  | invokeNative caller request =>
    exact congrArg some (discreet_answerInvocation caller request s).symm
  | reconnect =>
    let expecting := { s.note .remoteReconnecting with status := s.status.reconnectRequested }
    exact congrArg some (discreet_disconnect none true expecting).symm
  | disconnect => rfl
  | start mode => exact discreet_serveStart waits mode s

theorem discreet_serveFrame (waits : Wait.AlsoDiscreet await await') (f : Frame)
    (s : Session κ η) : s.discreet.serveFrame await' f =
      (s.serveFrame await f).map fun r => (r.1, r.2.discreet) := by
  unfold serveFrame
  rcases Command.decode f with e | _ | command
  · dsimp only
    rw [Option.map_some, discreet_note rfl]
  · rfl
  · dsimp only
    rw [discreet_serve waits]
    cases s.serve await command <;> rfl

end Serve

/-! ## Looks, ticks and calls -/

section Drive

theorem isRefusal_edge (d : Pause.Detector) : ∀ n ∈ d.edge, n.isRefusal = false := by
  unfold Pause.Detector.edge
  split
  · simp [Notice.isRefusal]
  · split <;> simp [Notice.isRefusal]

theorem isRefusal_checkTick (now : Int) (d : Pause.Detector) :
    ∀ n ∈ (d.checkTick now).2.2, n.isRefusal = false := by
  unfold Pause.Detector.checkTick
  split
  · simp
  · split
    · split <;> simp [Notice.isRefusal]
    · split
      · simp [Notice.isRefusal]
      · exact isRefusal_edge d

theorem isRefusal_checkCall (d : Pause.Detector) :
    ∀ n ∈ d.checkCall.2.2, n.isRefusal = false := by
  unfold Pause.Detector.checkCall
  split
  · simp
  · exact isRefusal_edge d

theorem discreet_observe (name : String) (s : Session κ η) :
    (s.observe name).discreet = s.discreet.observe name := by
  unfold observe
  rw [settings_discreet]
  split
  · rfl
  · split <;> rfl

variable [Channel κ]

theorem discreet_beat (s : Session κ η) : s.beat.discreet = s.discreet.beat := by
  have others := isRefusal_checkTick (Channel.now s.channel) s.detector
  unfold beat
  dsimp only
  rw [detector_discreet, channel_discreet]
  generalize s.detector.checkTick (Channel.now s.channel) = check at others ⊢
  rcases check with ⟨_ | _, detector, notices⟩
  · let t := { s with detector := detector.heartbeat (Channel.now s.channel) }
    exact (discreet_send _ _ _).trans (congrArg _ (discreet_noteAll others t))
  · exact discreet_noteAll others { s with detector := detector }

theorem discreet_heartbeat (s : Session κ η) : s.heartbeat.discreet = s.discreet.heartbeat := by
  unfold heartbeat
  rw [isConnected_discreet, status_discreet]
  split
  · rw [discreet_beat, discreet_setHolding]
  · rfl

theorem discreet_gate (name : String) (s : Session κ η) :
    s.discreet.gate name = ((s.gate name).1, (s.gate name).2.discreet) := by
  unfold gate
  rw [isConnected_discreet, status_discreet]
  split
  · rfl
  · dsimp only
    rw [← discreet_setHolding]
    generalize s.setHolding false = t
    -- the init callback opens the way on both sides
    have opened : (if name = t.discreet.settings.initCallback then
          { t.discreet with status := t.discreet.status.initDelivered } else t.discreet) =
        (if name = t.settings.initCallback then
          { t with status := t.status.initDelivered } else t).discreet := by
      by_cases init : name = t.settings.initCallback
      · rw [if_pos init, if_pos (show name = t.discreet.settings.initCallback from init)]
        rfl
      · rw [if_neg init, if_neg (show ¬ name = t.discreet.settings.initCallback from init)]
    dsimp only at opened
    rw [opened]
    generalize (if name = t.settings.initCallback then
      { t with status := t.status.initDelivered } else t) = u
    rw [status_discreet, detector_discreet]
    split
    · rfl
    · have others := isRefusal_checkCall u.detector
      generalize u.detector.checkCall = check at others ⊢
      rcases check with ⟨paused, detector, notices⟩
      dsimp only
      rw [discreet_noteAll others]
      rfl

variable [Host η]

theorem discreet_poll {await : Wait κ η} {await' : Wait κ (Discreet η)}
    (waits : Wait.AlsoDiscreet await await') (s : Session κ η) :
    s.discreet.poll await' = (s.poll await).map fun r => (r.1, r.2.discreet) := by
  unfold poll
  rw [status_discreet, channel_discreet]
  split
  · rw [Option.map_some, discreet_disconnect]
  · rw [discreet_connect]
    rcases s.connect with ⟨_ | _, t⟩
    · rfl
    · dsimp only
      rw [channel_discreet]
      rcases Channel.receive t.channel with ⟨f | _ | _, c⟩
      · exact discreet_serveFrame waits f ({ t with channel := c }.hear f)
      · rfl
      · dsimp only
        rw [Option.map_some, discreet_disconnect]
        rfl

theorem discreet_awaitReply (patience : Nat) :
    Wait.AlsoDiscreet (awaitReply patience : Wait κ η) (awaitReply patience) := by
  -- a look may wait itself, with less patience than the wait that looks
  induction patience with
  | zero =>
    intro s
    rfl
  | succ n ih =>
    intro s
    unfold awaitReply
    rw [discreet_poll ih]
    rcases s.poll (awaitReply n) with _ | ⟨step, t⟩
    · rfl
    · cases step with
      | served => exact ih t
      | nothing => exact ih t
      | answer payload => rfl
      | dead => rfl

theorem discreet_drain (patience : Nat) (s : Session κ η) :
    s.discreet.drain patience = (s.drain patience).map discreet := by
  induction patience generalizing s with
  | zero => rfl
  | succ n ih =>
    unfold drain
    rw [discreet_poll (discreet_awaitReply n)]
    rcases s.poll (awaitReply n) with _ | ⟨step, t⟩
    · rfl
    · cases step with
      | served => exact ih t
      | nothing => rfl
      | answer payload =>
        dsimp only [Option.map_some]
        rw [← discreet_note rfl]
        exact ih _
      | dead => rfl

theorem discreet_tick (patience : Nat) (s : Session κ η) :
    s.discreet.tick patience = (s.tick patience).map discreet := by
  unfold tick
  rw [← discreet_heartbeat, discreet_drain]

theorem discreet_call (patience : Nat) (caller : UInt16) (name : String)
    (params : List Callback.Param) (s : Session κ η) :
    s.discreet.call patience caller name params =
      (s.call patience caller name params).map fun r => (r.1, r.2.discreet) := by
  unfold call
  rw [← discreet_observe, discreet_gate]
  rcases (s.observe name).gate name with ⟨_ | _, t⟩
  · rfl
  · dsimp only
    rw [callPayload_discreet]
    rcases t.callPayload caller name params with e | _ | payload
    · dsimp only
      rw [Option.map_some, discreet_note rfl]
    · rfl
    · dsimp only
      rw [← discreet_send, discreet_awaitReply]
      rcases awaitReply patience (t.send Opcode.publicCall payload) with _ | ⟨reply, u⟩
      · rfl
      · dsimp only [Option.map_some]
        rw [discreet_noteSilence]

end Drive

end Session

end HostLink
