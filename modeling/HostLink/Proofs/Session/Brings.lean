import HostLink.Proofs.Callback.Record
import HostLink.Proofs.Session.Traffic

/-!
# HostLink.Proofs.Session.Brings

What a session's strides add to the traffic, and what becomes of the gist.

* `Served.hears`  — serving a frame, case by case (`Hears`).
* `Stride.brings` — any stride (`Brings`).

A law about frames or tables is proved for these cases and holds at every moment (`Occurs.keeps`):
the table of natives is sound (`Occurs.sound_natives`), and that of callbacks has come of records
(`Occurs.ofRecords`).
-/

namespace HostLink

/-- The command that a frame is, if it is one and whole. -/
def Frame.command? (f : Frame) : Option Command := (Command.decode f).toOption.join

/-- Whether a command has no bearing on the gist and wants no answer but a pong. -/
def Command.isPlain : Command → Bool
  | .registerCall record => (Callback.readRecord record).toOption.isNone
  | .findNative _ _ => false
  | .invokeNative _ _ => false
  | .reconnect => false
  | .disconnect => false
  | _ => true

def Frame.Plain (f : Frame) : Prop := ∀ c, f.command? = some c → c.isPlain = true

theorem Frame.command_of_decode {f : Frame} {c : Command} (h : Command.decode f = .ok (some c)) :
    f.command? = some c := by
  rw [command?, h]
  rfl

theorem Frame.plain_of_decode {f : Frame} {c : Command} (h : Command.decode f = .ok (some c))
    (plain : c.isPlain = true) : f.Plain := by
  intro d decoded
  rw [command_of_decode h] at decoded
  cases decoded
  exact plain

theorem Frame.plain_of_unknown {f : Frame} (h : f.command? = none) : f.Plain := by
  intro c decoded
  rw [h] at decoded
  cases decoded

/-- With the marks of a start set, only the link and the intent decide about calls. -/
theorem Status.allows_begun (s : Status) :
    s.remoteStarted.initDelivered.allows .call = true ↔ s.isUp = true ∧ s.intent = .none := by
  change (s.isUp && true && decide (s.intent = .none)) = true ↔ _
  simp

namespace Session

variable {κ η : Type} [Host η]

/-! ## What serving a frame brings -/

/-- What serving a frame adds to the traffic, and what becomes of the gist. The session `s` has
taken the frame in already. -/
inductive Hears (f : Frame) (s t : Session κ η) : Journal η → Prop where
  | ignored (plain : f.Plain) (gist : t.gist = s.gist) : Hears f s t []
  | ponged {e : Event η} (plain : f.Plain) (gist : t.gist = s.gist)
      (offers : e.offered? = some (⟨Opcode.pong, []⟩, s.status)) : Hears f s t [e]
  | registered {record : Bytes} {name : String} {signature : Callback.Signature}
      (decoded : f.command? = some (.registerCall record))
      (read : Callback.readRecord record = .ok (name, signature))
      (gist : t.gist = { s.gist with callbacks := s.callbacks.insert name signature }) :
      Hears f s t []
  | lookedUp {caller : UInt16} {name : String} {e : Event η}
      (decoded : f.command? = some (.findNative caller name))
      (gist : t.gist = { s.gist with natives := (s.natives.resolve name s.host).table })
      (offers : e.offered? = some (⟨Opcode.reply, s.lookupReply caller name⟩, s.status)) :
      Hears f s t ((s.natives.resolve name s.host).answer.toList.map (.asked name) ++ [e])
  | cramped {caller : UInt16} {request : Bytes}
      (decoded : f.command? = some (.invokeNative caller request))
      (narrow : s.settings.maxPayloadSize.toNat < 2) (gist : t.gist = s.gist) : Hears f s t []
  | invoked {caller : UInt16} {request : Bytes} {e : Event η}
      (decoded : f.command? = some (.invokeNative caller request))
      (wide : 2 ≤ s.settings.maxPayloadSize.toNat) (gist : t.gist = s.gist)
      (offers : e.offered? = some (⟨Opcode.reply, s.invocationReply caller request⟩, s.status)) :
      Hears f s t [e]
  | leaving (decoded : f.command? = some .disconnect)
      (gist : t.gist = { s.gist with intent := .disconnecting }) : Hears f s t []
  | returning (decoded : f.command? = some .reconnect) (down : s.status.isUp = false)
      (gist : t.gist = { s.gist with intent := .reconnecting }) : Hears f s t []
  | returned (decoded : f.command? = some .reconnect) (up : s.status.isUp = true)
      (gist : t.gist = { s.gist with link := .down, intent := .reconnecting }) :
      Hears f s t [.hungUp .expected s.expecting.memory]
  | called {payload : Bytes} {e : Event η} {status : Status}
      (decoded : f.command? = some (.start .deliverInit)) (gist : t.gist = s.gist)
      (init : status.clientInit = true)
      (allows : status.allows .call = true ↔ s.status.isUp = true ∧ s.status.intent = .none)
      (short : payload.length ≤ s.settings.maxPayloadSize.toNat)
      (offers : e.offered? = some (⟨Opcode.publicCall, payload⟩, status)) : Hears f s t [e]

theorem hears_enterCallback {f : Frame} {record : Bytes} (s : Session κ η)
    (decoded : Command.decode f = .ok (some (.registerCall record))) :
    Hears f s (s.enterCallback record) [] := by
  unfold enterCallback Callback.Table.register
  cases read : Callback.readRecord record with
  | error e =>
    have plain : (Command.registerCall record).isPlain = true := by
      simp [Command.isPlain, read, Except.toOption]
    exact .ignored (Frame.plain_of_decode decoded plain) rfl
  | ok entry =>
    obtain ⟨name, signature⟩ := entry
    exact .registered (Frame.command_of_decode decoded) read rfl

variable [Channel κ]

theorem hears_answerLookup {f : Frame} {caller : UInt16} {name : String} (s : Session κ η)
    (decoded : f.command? = some (.findNative caller name)) : ∃ es,
    (s.answerLookup caller name).traffic = s.traffic ++ es ∧
      Hears f s (s.answerLookup caller name) es := by
  rcases answerLookup_cases caller name s with ⟨e, refused, -⟩ | ⟨payload, encoded, eq⟩
  · rw [LookupAnswer.encode_eq] at refused
    cases refused
  · rw [LookupAnswer.encode_eq] at encoded
    cases encoded
    obtain ⟨e, offered, traffic⟩ := offers_send Opcode.reply (s.lookupReply caller name)
      (s.consulted name)
    have gist : (s.answerLookup caller name).gist =
        { s.gist with natives := (s.natives.resolve name s.host).table } := by
      rw [eq, (still_send _ _ _).gist, gist_consulted]
    rw [status_consulted] at offered
    refine ⟨_, ?_, .lookedUp decoded gist offered⟩
    rw [eq, ← List.append_assoc, ← traffic_consulted]
    exact traffic

theorem hears_expecting {f : Frame} (s : Session κ η)
    (decoded : f.command? = some .reconnect) : ∃ es,
    (s.expecting.disconnect none true).traffic = s.traffic ++ es ∧
      Hears f s (s.expecting.disconnect none true) es := by
  have noted : s.expecting.traffic = s.traffic := traffic_note _ s
  cases up : s.status.isUp with
  | true =>
    have traffic := traffic_disconnect none true (s := s.expecting) up
    have ended : Ended .expected s.expecting _ := ended_disconnect none true up
    exact ⟨_, by rw [traffic, noted]; rfl, .returned decoded up ended.gist⟩
  | false =>
    have down : s.expecting.status.isUp = false := up
    have eq : s.expecting.disconnect none true = s.expecting := if_neg (by simp [down])
    rw [eq]
    exact ⟨[], by rw [noted, List.append_nil], .returning decoded up rfl⟩

theorem Served.hears {f : Frame} {s t : Session κ η} {step : Step} (h : Served f s step t) :
    ∃ es, t.traffic = s.traffic ++ es ∧ Hears f s t es := by
  have silent {u : Session κ η} (traffic : u.traffic = s.traffic) (hears : Hears f s u []) :
      ∃ es, u.traffic = s.traffic ++ es ∧ Hears f s u es := ⟨[], by simp [traffic], hears⟩
  have ignored {u : Session κ η} {c : Command} (decoded : Command.decode f = .ok (some c))
      (plain : c.isPlain = true) (traffic : u.traffic = s.traffic) (gist : u.gist = s.gist) :
      ∃ es, u.traffic = s.traffic ++ es ∧ Hears f s u es :=
    silent traffic (.ignored (Frame.plain_of_decode decoded plain) gist)
  have begun : s.begun.traffic = s.traffic := traffic_note _ s
  have delivered : s.delivered.traffic = s.traffic := (traffic_note _ s.begun).trans begun
  cases h with
  | malformed decoded =>
    have unknown : f.command? = none := by rw [Frame.command?, decoded]; rfl
    exact silent (traffic_note _ s) (.ignored (Frame.plain_of_unknown unknown) rfl)
  | answer decoded =>
    have unknown : f.command? = none := by rw [Frame.command?, decoded]; rfl
    exact silent rfl (.ignored (Frame.plain_of_unknown unknown) rfl)
  | ping decoded =>
    obtain ⟨e, offered, traffic⟩ := offers_send Opcode.pong [] s
    exact ⟨[e], traffic,
      .ponged (Frame.plain_of_decode decoded rfl) (still_send _ _ s).gist offered⟩
  | print decoded => exact ignored decoded rfl (traffic_note _ s) rfl
  | alive decoded => exact ignored decoded rfl rfl rfl
  | registerCall decoded => exact silent (traffic_enterCallback _ s) (hears_enterCallback s decoded)
  | findNative decoded => exact hears_answerLookup s (Frame.command_of_decode decoded)
  | @invokeNative caller request decoded =>
    have decoded := Frame.command_of_decode decoded
    have gist := (still_answerInvocation caller request s).gist
    by_cases wide : 2 ≤ s.settings.maxPayloadSize.toNat
    · obtain ⟨e, offered, traffic⟩ := answerInvocation_wide caller request wide
      exact ⟨[e], traffic, .invoked decoded wide gist offered⟩
    · have narrow : s.settings.maxPayloadSize.toNat < 2 := by omega
      obtain ⟨e, eq⟩ := answerInvocation_narrow caller request narrow
      exact silent (by rw [eq, traffic_note]) (.cramped decoded narrow gist)
  | reconnect decoded => exact hears_expecting s (Frame.command_of_decode decoded)
  | disconnect decoded =>
    exact silent (traffic_note _ s) (.leaving (Frame.command_of_decode decoded) rfl)
  | waits decoded => exact ignored decoded rfl ((traffic_note _ _).trans begun) rfl
  | restarts decoded =>
    have restarted := traffic_restart (s.begun.note .startsRestarting)
    exact ignored decoded rfl (restarted.trans ((traffic_note _ _).trans begun))
      (still_restart _).gist
  | unknown decoded => exact ignored decoded rfl ((traffic_note _ _).trans begun) rfl
  | early decoded => exact ignored decoded rfl ((traffic_note _ _).trans begun) rfl
  | nested decoded =>
    exact ignored decoded rfl ((traffic_note _ _).trans ((traffic_note _ _).trans begun)) rfl
  | unwritable decoded => exact ignored decoded rfl ((traffic_note _ _).trans delivered) rfl
  | unregistered decoded => exact ignored decoded rfl delivered rfl

theorem hears_asking {f : Frame} {payload : Bytes} {s : Session κ η} (asks : Asks f payload s) :
    ∃ es, (s.asking payload).traffic = s.traffic ++ es ∧ Hears f s (s.asking payload) es := by
  let raised : Session κ η := { s.delivered with delivering := true }
  have traffic : raised.traffic = s.traffic :=
    (traffic_note .startsFaking s.begun).trans (traffic_note .remoteStarted s)
  obtain ⟨e, offered, sent⟩ := offers_send Opcode.publicCall payload raised
  have allows : raised.status.allows .call = true ↔
      s.status.isUp = true ∧ s.status.intent = .none := s.status.allows_begun
  -- The marks of the start are set before the call goes out, so its status is not that of `s`.
  refine ⟨[e], by rw [← traffic]; exact sent, .called (Frame.command_of_decode asks.command)
    (still_send _ _ raised).gist rfl allows (callPayload_short asks.ready) offered⟩

/-! ## What a stride brings -/

/-- What a stride adds to the traffic, and what becomes of the gist. -/
inductive Brings (s t : Session κ η) : Journal η → Prop where
  | nothing (gist : t.gist = s.gist) : Brings s t []
  | beaten {e : Event η} (gist : t.gist = s.gist) (allowed : s.status.allows .heartbeat = true)
      (offers : e.offered? = some (⟨Opcode.tick, []⟩, s.status)) : Brings s t [e]
  | called {payload : Bytes} {e : Event η} (gist : t.gist = s.gist)
      (allowed : s.status.allows .call = true) (init : s.status.clientInit = true)
      (short : payload.length ≤ s.settings.maxPayloadSize.toNat)
      (offers : e.offered? = some (⟨Opcode.publicCall, payload⟩, s.status)) : Brings s t [e]
  | entered {payload : Bytes} {e : Event η}
      (gist : t.gist = { s.gist with link := .up, intent := s.status.connected.intent })
      (written : (Announcement.ofSettings s.settings).encode = .ok payload)
      (offers : e.offered? = some (⟨Opcode.announce, payload⟩, t.status)) :
      Brings s t [.letIn s.memory, e]
  | ended {cause : Cause} (gist : t.gist = ⟨.down, (s.status.disconnected cause).intent,
      if cause.clearsTables then .empty else s.natives,
      if cause.clearsTables then .empty else s.callbacks⟩) :
      Brings s t [.hungUp cause s.memory]
  | heard {c : κ} {f : Frame} {es : Journal η}
      (hears : Hears f ({ s with channel := c }.hear f) t es) : Brings s t (.received f :: es)

theorem brings_hear {f : Frame} {c : κ} {s t : Session κ η}
    (h : ∃ es, t.traffic = ({ s with channel := c }.hear f).traffic ++ es ∧
      Hears f ({ s with channel := c }.hear f) t es) :
    ∃ es, t.traffic = s.traffic ++ es ∧ Brings s t es := by
  obtain ⟨es, traffic, hears⟩ := h
  refine ⟨.received f :: es, ?_, .heard hears⟩
  rw [traffic, traffic_hear, List.append_assoc]
  rfl

theorem brings_takeIn (c : κ) (s : Session κ η) : ∃ es,
    (s.takeIn c).traffic = s.traffic ++ es ∧ Brings s (s.takeIn c) es := by
  let opened : Session κ η := { s with channel := c }.record (.letIn s.memory)
  have openedTraffic : opened.traffic = s.traffic ++ [.letIn s.memory] :=
    traffic_record (.letIn s.memory) _
  have greeted : opened.greet.traffic = opened.traffic :=
    (traffic_note _ _).trans (traffic_signal .connected opened)
  obtain ⟨payload, written, e, offered, traffic⟩ := offers_announce opened.greet
  have entered := entered_takeIn c s
  have eq : s.takeIn c = opened.greet.announce := welcome_eq opened
  have status : opened.greet.status = (s.takeIn c).status := by rw [entered.status]; rfl
  have gist : (s.takeIn c).gist =
      { s.gist with link := .up, intent := s.status.connected.intent } := by
    have link : s.status.connected.link = .up := by
      unfold Status.connected
      split <;> rfl
    rw [Session.gist, Memory.gist, memory, entered.status, entered.natives, entered.callbacks, link]
    rfl
  rw [status] at offered
  refine ⟨[.letIn s.memory, e], ?_, .entered gist written offered⟩
  rw [eq, traffic, greeted, openedTraffic, List.append_assoc]
  rfl

theorem brings_beat {s : Session κ η} (allowed : s.status.allows .heartbeat = true) : ∃ es,
    (s.setHolding false).beat.traffic = s.traffic ++ es ∧
      Brings s (s.setHolding false).beat es := by
  let held := s.setHolding false
  have heldTraffic : held.traffic = s.traffic := traffic_setHolding false s
  have gist := ((still_setHolding false s).trans (still_beat held)).gist
  rcases beat_cases held with traffic | ⟨e, offered, traffic⟩
  · exact ⟨[], by rw [traffic, heldTraffic, List.append_nil], .nothing gist⟩
  · exact ⟨[e], by rw [traffic, heldTraffic], .beaten gist allowed offered⟩

theorem Stride.brings {s t : Session κ η} (stride : Stride s t) :
    ∃ es, t.traffic = s.traffic ++ es ∧ Brings s t es := by
  have nothing {u : Session κ η} (traffic : u.traffic = s.traffic) (gist : u.gist = s.gist) :
      ∃ es, u.traffic = s.traffic ++ es ∧ Brings s u es :=
    ⟨[], by simp [traffic], .nothing gist⟩
  cases stride with
  | passed c h => exact nothing rfl rfl
  | noted n => exact nothing (traffic_note n s) rfl
  | prepared => exact nothing (traffic_prepare s) (still_prepare s).gist
  | entered came => exact brings_takeIn _ s
  | ended context expected =>
    by_cases up : s.status.isUp = true
    · exact ⟨_, traffic_disconnect context expected up,
        .ended (ended_disconnect context expected up).gist⟩
    · have eq : s.disconnect context expected = s := if_neg up
      rw [eq]
      exact nothing rfl rfl
  | served came served => exact brings_hear served.hears
  | asked came asks => exact brings_hear (hears_asking asks)
  | resumed reply => exact nothing (traffic_noteSilence _ _ _) (still_resumed reply s).gist
  | beaten allowed => exact brings_beat allowed
  | observed name => exact nothing (traffic_observe name s) (gist_observe name s)
  | gated name => exact nothing (traffic_gate name s) (gist_gate name s)
  | @called r _ caller name params payload opened written =>
    obtain ⟨-, allowed, init⟩ := gate_open opened
    obtain ⟨e, offered, traffic⟩ := offers_send Opcode.publicCall payload s
    exact ⟨[e], traffic, .called (still_send _ _ s).gist allowed init
      (callPayload_short written) offered⟩

/-- What was seen stays in the traffic. -/
theorem Course.traffic {s t : Session κ η} (course : Course s t) :
    ∃ es, t.traffic = s.traffic ++ es := by
  induction course with
  | refl => exact ⟨[], by simp⟩
  | tail before stride ih =>
    obtain ⟨es, seen⟩ := ih
    obtain ⟨fs, more, -⟩ := stride.brings
    exact ⟨es ++ fs, by rw [more, seen, List.append_assoc]⟩

/-! ## The tables -/

/-- The tables stay as they are, or both are emptied, or something is entered in one of them. -/
theorem Brings.tables {es : Journal η} {s t : Session κ η} (brings : Brings s t es) :
    (t.natives = s.natives ∧ t.callbacks = s.callbacks) ∨
      (t.natives = .empty ∧ t.callbacks = .empty) ∨
      (∃ name host, t.natives = (s.natives.resolve name host).table ∧
        t.callbacks = s.callbacks) ∨
      ∃ record, t.natives = s.natives ∧ t.callbacks = s.callbacks.enter record := by
  have tables {g : Gist η} (gist : t.gist = g) :
      t.natives = g.natives ∧ t.callbacks = g.callbacks :=
    ⟨congrArg Gist.natives gist, congrArg Gist.callbacks gist⟩
  cases brings with
  | nothing gist => exact .inl (tables gist)
  | beaten gist => exact .inl (tables gist)
  | called gist => exact .inl (tables gist)
  | entered gist => exact .inl (tables gist)
  | @ended cause gist =>
    cases cause with
    | expected => exact .inl (tables gist)
    | declared => exact .inr (.inl (tables gist))
    | unexpected => exact .inr (.inl (tables gist))
  | heard hears =>
    cases hears with
    | lookedUp decoded gist => exact .inr (.inr (.inl ⟨_, _, tables gist⟩))
    | @registered record name signature decoded read gist =>
      have entered : s.callbacks.enter record = s.callbacks.insert name signature := by
        rw [Callback.Table.enter, Callback.Table.register, read]
      obtain ⟨natives, inserted⟩ := tables gist
      exact .inr (.inr (.inr ⟨record, natives, inserted.trans entered.symm⟩))
    | ignored plain gist => exact .inl (tables gist)
    | ponged plain gist => exact .inl (tables gist)
    | cramped decoded narrow gist => exact .inl (tables gist)
    | invoked decoded wide gist => exact .inl (tables gist)
    | leaving decoded gist => exact .inl (tables gist)
    | returning decoded down gist => exact .inl (tables gist)
    | returned decoded up gist => exact .inl (tables gist)
    | called decoded gist => exact .inl (tables gist)

/-- At every moment the table of natives is sound. -/
theorem Occurs.sound_natives {s : Session κ η} (occurs : s.Occurs) : s.natives.Sound := by
  refine occurs.keeps (I := fun s => s.natives.Sound) ?_ fun s t _ stride sound => ?_
  · intro settings listener channel host
    have natives : (make settings listener channel host : Session κ η).natives = .empty :=
      congrArg Gist.natives (gist_make settings listener channel host)
    rw [natives]
    exact Native.Table.sound_empty
  · obtain ⟨es, -, brings⟩ := stride.brings
    rcases brings.tables with
      ⟨same, -⟩ | ⟨emptied, -⟩ | ⟨name, host, resolved, -⟩ | ⟨record, same, -⟩
    · rw [same]
      exact sound
    · rw [emptied]
      exact Native.Table.sound_empty
    · rw [resolved]
      exact sound.resolve (Native.Table.resolves name s.natives host)
    · rw [same]
      exact sound

/-- At every moment the table of callbacks has come of records. -/
theorem Occurs.ofRecords {s : Session κ η} (occurs : s.Occurs) :
    ∃ records, s.callbacks = Callback.Table.ofRecords records := by
  refine occurs.keeps (I := fun s => ∃ records, s.callbacks = Callback.Table.ofRecords records)
    ?_ fun s t _ stride ofRecords => ?_
  · intro settings listener channel host
    exact ⟨[], congrArg Gist.callbacks (gist_make settings listener channel host)⟩
  · obtain ⟨records, eq⟩ := ofRecords
    obtain ⟨es, -, brings⟩ := stride.brings
    rcases brings.tables with
      ⟨-, same⟩ | ⟨-, emptied⟩ | ⟨name, host, -, same⟩ | ⟨record, -, entered⟩
    · exact ⟨records, same.trans eq⟩
    · exact ⟨[], emptied⟩
    · exact ⟨records, same.trans eq⟩
    · refine ⟨records ++ [record], ?_⟩
      rw [entered, eq, Callback.Table.ofRecords, Callback.Table.ofRecords, List.foldl_append]
      rfl

end Session

end HostLink
