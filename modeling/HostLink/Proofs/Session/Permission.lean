import HostLink.Proofs.Session.Brings
import HostLink.Scripted.Catalog

/-!
# HostLink.Proofs.Session.Permission

Under which status a session sends what it sends of its own accord. Heartbeats and the calls of the
host go out only while the status allows them. One call does not ask: when a runtime starts and
wants the init callback, the call goes out at once, whatever the runtime has announced before.

What the status allows can be read off a journal: whether somebody is there (`Journal.linked`), and
what the runtimes have announced (`Journal.announced`).

* `Informed` — the status agrees with the journal.
* `offered_permitted` — under which status heartbeats and calls are handed to the channel.
* `exists_forced` — a call to a runtime that has announced its departure.
-/

namespace HostLink

/-- What a command announces. -/
def Intent.heed (i : Intent) : Command → Intent
  | .disconnect => .disconnecting
  | .reconnect => .reconnecting
  | _ => i

theorem Intent.heed_plain {i : Intent} {c : Command} (plain : c.isPlain = true) : i.heed c = i := by
  cases c with
  | disconnect => cases plain
  | reconnect => cases plain
  | _ => rfl

namespace Journal

variable {η : Type}

/-- Whether somebody has been let in and not been parted from. -/
def linkedBy (up : Bool) : Event η → Bool
  | .letIn _ => true
  | .hungUp _ _ => false
  | _ => up

def linked (j : Journal η) : Bool := j.foldl linkedBy false

/-- An announced return is done when somebody is let in, and a departure that was announced takes
the announcement with it. -/
def announcedBy (i : Intent) : Event η → Intent
  | .received f => f.command?.elim i i.heed
  | .letIn _ => if i = .reconnecting then .none else i
  | .hungUp .declared _ => .none
  | _ => i

def announced (j : Journal η) : Intent := j.foldl announcedBy .none

theorem announcedBy_plain {i : Intent} {f : Frame} (plain : f.Plain) :
    announcedBy i (.received f : Event η) = i := by
  change f.command?.elim i i.heed = i
  cases decoded : f.command? with
  | none => rfl
  | some c => exact Intent.heed_plain (plain c decoded)

theorem linked_append (j es : Journal η) : (j ++ es).linked = es.foldl linkedBy j.linked :=
  List.foldl_append

theorem announced_append (j es : Journal η) :
    (j ++ es).announced = es.foldl announcedBy j.announced :=
  List.foldl_append

theorem linked_traffic (j : Journal η) : linked (j.filter Event.isTraffic) = j.linked := by
  refine foldl_traffic _ (fun a e aside => ?_) j
  cases e <;> first | rfl | cases aside

theorem announced_traffic (j : Journal η) :
    announced (j.filter Event.isTraffic) = j.announced := by
  refine foldl_traffic _ (fun a e aside => ?_) j
  cases e <;> first | rfl | cases aside

theorem received_traffic (j : Journal η) : received (j.filter Event.isTraffic) = j.received :=
  filterMap_traffic (fun e aside => by cases e <;> first | rfl | cases aside) j

/-- An event that changes neither the link nor what is announced. -/
structure Neutral (e : Event η) : Prop where
  link (up : Bool) : linkedBy up e = up
  intent (i : Intent) : announcedBy i e = i

theorem foldl_neutral {α : Type} {read : α → Event η → α} {a : α} {es : Journal η}
    (neutral : ∀ e ∈ es, read a e = a) : es.foldl read a = a := by
  induction es with
  | nil => rfl
  | cons e es ih =>
    obtain ⟨first, rest⟩ := List.forall_mem_cons.mp neutral
    rw [List.foldl_cons, first, ih rest]

theorem neutral_offered {e : Event η} {f : Frame} {status : Status}
    (offers : e.offered? = some (f, status)) : Neutral e := by
  rcases Event.eq_of_offered offers with rfl | rfl <;> exact ⟨fun _ => rfl, fun _ => rfl⟩

theorem neutral_plain {f : Frame} (plain : f.Plain) : Neutral (.received f : Event η) :=
  ⟨fun _ => rfl, fun _ => announcedBy_plain plain⟩

theorem neutral_command {f : Frame} {c : Command} (decoded : f.command? = some c)
    (same : ∀ i : Intent, i.heed c = i) : Neutral (.received f : Event η) := by
  refine ⟨fun _ => rfl, fun i => ?_⟩
  change f.command?.elim i i.heed = i
  rw [decoded]
  exact same i

/-- What a frame that is handed to the channel says of the status, if it is a heartbeat or a call,
behind the events before. -/
def Permitted (before : Journal η) (e : Event η) : Prop :=
  ∀ f status, e.offered? = some (f, status) →
    (f.opcode = Opcode.tick → status.allows .heartbeat = true) ∧
    (f.opcode = Opcode.publicCall → status.clientInit = true ∧
      (status.allows .call = true ↔ before.linked = true ∧ before.announced = .none) ∧
      (status.allows .call = false →
        ∃ g, before.received.getLast? = some g ∧ g.command? = some (.start .deliverInit)))

theorem permitted_mute {before : Journal η} {e : Event η} (mute : e.offered? = none) :
    Permitted before e := by
  intro f status offered
  rw [mute] at offered
  cases offered

/-- Answers and announcements need no permission. -/
theorem permitted_other {before : Journal η} {e : Event η} {opcode : UInt8} {payload : Bytes}
    {status : Status} (offers : e.offered? = some (⟨opcode, payload⟩, status))
    (other : opcode ≠ Opcode.tick ∧ opcode ≠ Opcode.publicCall) : Permitted before e := by
  intro f status' offered
  rw [offers] at offered
  cases offered
  exact ⟨fun beat => absurd beat other.1, fun call => absurd call other.2⟩

theorem permitted_beat {before : Journal η} {e : Event η} {payload : Bytes} {status : Status}
    (offers : e.offered? = some (⟨Opcode.tick, payload⟩, status))
    (allowed : status.allows .heartbeat = true) : Permitted before e := by
  intro f status' offered
  rw [offers] at offered
  cases offered
  have other : Opcode.tick ≠ Opcode.publicCall := by decide
  exact ⟨fun _ => allowed, fun call => absurd call other⟩

theorem permitted_call {before : Journal η} {e : Event η} {payload : Bytes} {status : Status}
    (offers : e.offered? = some (⟨Opcode.publicCall, payload⟩, status))
    (init : status.clientInit = true)
    (allows : status.allows .call = true ↔ before.linked = true ∧ before.announced = .none)
    (forced : status.allows .call = false →
      ∃ g, before.received.getLast? = some g ∧ g.command? = some (.start .deliverInit)) :
    Permitted before e := by
  intro f status' offered
  rw [offers] at offered
  cases offered
  have other : Opcode.publicCall ≠ Opcode.tick := by decide
  exact ⟨fun beat => absurd beat other, fun _ => ⟨init, allows, forced⟩⟩

theorem split_of_getElem? {j : Journal η} {k : Nat} {e : Event η} (h : j[k]? = some e) :
    j = j.take k ++ e :: j.drop (k + 1) := by
  obtain ⟨bound, rfl⟩ := List.getElem?_eq_some_iff.mp h
  rw [← List.drop_eq_getElem_cons bound, List.take_append_drop]

end Journal

theorem Status.of_allows_call {s : Status} (h : s.allows .call = true) :
    s.isUp = true ∧ s.intent = .none := by
  simp only [allows, isLive, Bool.and_eq_true, decide_eq_true_eq] at h
  exact ⟨h.1.1, h.2⟩

namespace Session

variable {κ η : Type}

/-- The journal tells where the session stands, and all that was offered was permitted. -/
structure Tells (j : Journal η) (s : Session κ η) : Prop where
  link : j.linked = s.status.isUp
  intent : j.announced = s.status.intent
  permitted : j.Each (fun before e _ => Journal.Permitted before e) []

/-- Neutral events leave the link and the intent as they are. -/
theorem Tells.pass {j es : Journal η} {s t : Session κ η} (h : Tells j s)
    (link : t.gist.link = s.gist.link) (intent : t.gist.intent = s.gist.intent)
    (neutral : ∀ e ∈ es, Journal.Neutral e)
    (permitted : es.Each (fun before e _ => Journal.Permitted before e) j) : Tells (j ++ es) t where
  link := by
    have up : t.status.isUp = s.status.isUp := congrArg (fun l => decide (l = Link.up)) link
    rw [Journal.linked_append, Journal.foldl_neutral fun e mem => (neutral e mem).link _, up]
    exact h.link
  intent := by
    rw [Journal.announced_append, Journal.foldl_neutral fun e mem => (neutral e mem).intent _]
    exact h.intent.trans intent.symm
  permitted := h.permitted.append permitted fun _ _ _ _ held => held

/-- Other events say what has become of the link and the intent. -/
theorem Tells.turn {j es : Journal η} {s t : Session κ η} (h : Tells j s)
    (link : es.foldl Journal.linkedBy s.status.isUp = t.status.isUp)
    (intent : es.foldl Journal.announcedBy s.status.intent = t.status.intent)
    (permitted : es.Each (fun before e _ => Journal.Permitted before e) j) : Tells (j ++ es) t where
  link := by rw [Journal.linked_append, h.link, link]
  intent := by rw [Journal.announced_append, h.intent, intent]
  permitted := h.permitted.append permitted fun _ _ _ _ held => held

variable [Host η]

theorem Hears.tells {f : Frame} {j es : Journal η} {s t : Session κ η} (hears : Hears f s t es)
    (h : Tells j s) : Tells (j ++ .received f :: es) t := by
  have mute : Journal.Permitted j (.received f) := Journal.permitted_mute rfl
  cases hears with
  | ignored plain gist =>
    refine h.pass (by rw [gist]) (by rw [gist]) ?_ ⟨mute, trivial⟩
    simpa using Journal.neutral_plain plain
  | ponged plain gist offers =>
    refine h.pass (by rw [gist]) (by rw [gist]) ?_
      ⟨mute, Journal.permitted_other offers (by decide), trivial⟩
    simpa using ⟨Journal.neutral_plain plain, Journal.neutral_offered offers⟩
  | registered decoded read gist =>
    refine h.pass (by rw [gist]) (by rw [gist]) ?_ ⟨mute, trivial⟩
    simpa using Journal.neutral_command decoded fun _ => rfl
  | @lookedUp caller name e decoded gist offers =>
    let answers : Journal η := (s.natives.resolve name s.host).answer.toList.map (.asked name)
    have asked : ∀ e ∈ answers, ∃ answer, e = .asked name answer := by
      intro e mem
      obtain ⟨answer, -, rfl⟩ := List.mem_map.mp mem
      exact ⟨answer, rfl⟩
    have muted : answers.Each (fun before e _ => Journal.Permitted before e)
        (j ++ [.received f]) := by
      refine Journal.each_of_forall (fun e' mem seen _ => ?_) _
      obtain ⟨answer, rfl⟩ := asked e' mem
      exact Journal.permitted_mute rfl
    refine h.pass (by rw [gist]) (by rw [gist]) ?_ ⟨mute, muted.append
      ⟨Journal.permitted_other offers (by decide), trivial⟩ fun _ _ _ _ held => held⟩
    intro e' mem
    rcases List.mem_cons.mp mem with rfl | mem
    · exact Journal.neutral_command decoded fun _ => rfl
    · rcases List.mem_append.mp mem with mem | mem
      · obtain ⟨answer, rfl⟩ := asked e' mem
        exact ⟨fun _ => rfl, fun _ => rfl⟩
      · obtain rfl := List.mem_singleton.mp mem
        exact Journal.neutral_offered offers
  | cramped decoded narrow gist =>
    refine h.pass (by rw [gist]) (by rw [gist]) ?_ ⟨mute, trivial⟩
    simpa using Journal.neutral_command decoded fun _ => rfl
  | invoked decoded wide gist offers =>
    refine h.pass (by rw [gist]) (by rw [gist]) ?_
      ⟨mute, Journal.permitted_other offers (by decide), trivial⟩
    simpa using ⟨Journal.neutral_command decoded fun _ => rfl, Journal.neutral_offered offers⟩
  | leaving decoded gist =>
    have link : t.status.link = s.status.link := congrArg Gist.link gist
    have intent : t.status.intent = .disconnecting := congrArg Gist.intent gist
    refine h.turn ?_ ?_ ⟨mute, trivial⟩
    · simp [Journal.linkedBy, Status.isUp, link]
    · simp [Journal.announcedBy, decoded, Intent.heed, intent]
  | returning decoded down gist =>
    have link : t.status.link = s.status.link := congrArg Gist.link gist
    have intent : t.status.intent = .reconnecting := congrArg Gist.intent gist
    refine h.turn ?_ ?_ ⟨mute, trivial⟩
    · simp [Journal.linkedBy, Status.isUp, link]
    · simp [Journal.announcedBy, decoded, Intent.heed, intent]
  | returned decoded up gist =>
    have link : t.status.link = .down := congrArg Gist.link gist
    have intent : t.status.intent = .reconnecting := congrArg Gist.intent gist
    refine h.turn ?_ ?_ ⟨mute, Journal.permitted_mute rfl, trivial⟩
    · simp [Journal.linkedBy, Status.isUp, link]
    · simp [Journal.announcedBy, decoded, Intent.heed, intent]
  | @called payload e status decoded gist init allows short offers =>
    have neutral := Journal.neutral_command (η := η) decoded fun _ => rfl
    -- The call goes out behind the frame that asks for it, so that frame is told of first.
    have told : Tells (j ++ [.received f]) s :=
      h.pass rfl rfl (by simpa using neutral) ⟨mute, trivial⟩
    have permitted : Journal.Permitted (j ++ [.received f]) e := by
      refine Journal.permitted_call offers init ?_ fun _ => ⟨f, ?_, decoded⟩
      · rw [told.link, told.intent]
        exact allows
      · simp [Journal.received, Event.received?]
    refine h.pass (by rw [gist]) (by rw [gist]) ?_ ⟨mute, permitted, trivial⟩
    simpa using ⟨neutral, Journal.neutral_offered offers⟩

variable [Channel κ]

theorem Brings.tells {j es : Journal η} {s t : Session κ η} (brings : Brings s t es)
    (h : Tells j s) : Tells (j ++ es) t := by
  cases brings with
  | nothing gist => exact h.pass (by rw [gist]) (by rw [gist]) (by simp) trivial
  | beaten gist allowed offers =>
    refine h.pass (by rw [gist]) (by rw [gist]) ?_
      ⟨Journal.permitted_beat offers allowed, trivial⟩
    simpa using Journal.neutral_offered offers
  | @called payload e gist allowed init short offers =>
    obtain ⟨up, staying⟩ := Status.of_allows_call allowed
    have permitted : Journal.Permitted j e := by
      refine Journal.permitted_call offers init ?_ fun refused => ?_
      · rw [h.link, h.intent]
        simp [allowed, up, staying]
      · rw [allowed] at refused
        cases refused
    refine h.pass (by rw [gist]) (by rw [gist]) ?_ ⟨permitted, trivial⟩
    simpa using Journal.neutral_offered offers
  | entered gist written offers =>
    have link : t.status.link = .up := congrArg Gist.link gist
    have intent : t.status.intent = s.status.connected.intent := congrArg Gist.intent gist
    have neutral := Journal.neutral_offered offers
    refine h.turn ?_ ?_
      ⟨Journal.permitted_mute rfl, Journal.permitted_other offers (by decide), trivial⟩
    · rw [List.foldl_cons, List.foldl_cons, List.foldl_nil, neutral.link]
      simp [Journal.linkedBy, Status.isUp, link]
    · rw [intent, List.foldl_cons, List.foldl_cons, List.foldl_nil, neutral.intent]
      unfold Journal.announcedBy Status.connected Status.isReturning
      by_cases returning : s.status.intent = .reconnecting <;> simp [returning]
  | @ended cause gist =>
    have link : t.status.link = .down := congrArg Gist.link gist
    have intent : t.status.intent = (s.status.disconnected cause).intent :=
      congrArg Gist.intent gist
    refine h.turn ?_ ?_ ⟨Journal.permitted_mute rfl, trivial⟩
    · simp [Journal.linkedBy, Status.isUp, link]
    · cases cause <;> simp [Journal.announcedBy, intent, Status.disconnected]
  | heard hears => exact hears.tells ⟨h.link, h.intent, h.permitted⟩

theorem Occurs.tells {s : Session κ η} (occurs : s.Occurs) : Tells s.traffic s := by
  refine occurs.keeps (I := fun s => Tells s.traffic s) ?_ fun s t _ stride told => ?_
  · intro settings listener channel host
    have gist := gist_make settings listener channel host
    have link : (make settings listener channel host : Session κ η).status.isUp = false :=
      congrArg (fun g : Gist η => decide (g.link = .up)) gist
    rw [traffic_make]
    exact ⟨link.symm, (congrArg Gist.intent gist).symm, trivial⟩
  · obtain ⟨es, traffic, brings⟩ := stride.brings
    rw [traffic]
    exact brings.tells told

/-- Every heartbeat is handed to the channel under a status that allows it. Every call is, under a
status in which the init callback has been delivered; and the status allows the call exactly if
somebody is there who has announced nothing. A call that is not allowed is the init callback, which
the frame that has just come in asks for. -/
theorem offered_permitted {s : Session κ η} (occurs : s.Occurs) {before after : Journal η}
    {e : Event η} {f : Frame} {status : Status} (split : s.journal = before ++ e :: after)
    (offered : e.offered? = some (f, status)) :
    (f.opcode = Opcode.tick → status.allows .heartbeat = true) ∧
    (f.opcode = Opcode.publicCall → status.clientInit = true ∧
      (status.allows .call = true ↔ before.linked = true ∧ before.announced = .none) ∧
      (status.allows .call = false →
        ∃ g, before.received.getLast? = some g ∧ g.command? = some (.start .deliverInit))) := by
  have traffic : s.traffic =
      before.filter Event.isTraffic ++ e :: after.filter Event.isTraffic := by
    simp [Session.traffic, split, Event.traffic_of_offered offered]
  have told := occurs.tells.permitted
  rw [traffic] at told
  have permitted : Journal.Permitted (before.filter Event.isTraffic) e := told.at
  have permitted := permitted f status offered
  rw [Journal.linked_traffic, Journal.announced_traffic, Journal.received_traffic] at permitted
  exact permitted

/-- A runtime that wants the init callback, and what it sends then. -/
def candidate (items : List Scripted.Item) : Scripted.Wire :=
  { peers := [.visit (.frame ⟨Opcode.registerCall, Utf8.encode "OnGameModeInit" ++ [0]⟩ :: items)] }

/-- The host's script has begun before the runtime comes; then the host ticks. -/
def hosted (wire : Scripted.Wire) : Option (Session Scripted.Wire Scripted.Catalog) :=
  ((rehearsal wire).call 9 0 "OnGameModeInit" []).bind fun r => r.2.tick 9

theorem reachable_hosted {wire : Scripted.Wire} {s : Session Scripted.Wire Scripted.Catalog}
    (closed : wire.connected = false) (h : hosted wire = some s) : Reachable s := by
  obtain ⟨⟨value, t⟩, called, ticked⟩ := Option.bind_eq_some_iff.mp h
  have first := (run_rehearsal closed).did 9 (.call 0 "OnGameModeInit" [])
    (by rw [perform, called, Option.map_some])
  exact ⟨_, first.did 9 .tick ticked⟩

/-- The runtime starts and wants the init callback; the call that goes out is allowed. -/
theorem offered_permitted_hosted : ∃ s : Session Scripted.Wire Scripted.Catalog, Reachable s ∧
    ∃ (before : Journal Scripted.Catalog) (e : Event Scripted.Catalog)
      (after : Journal Scripted.Catalog) (f : Frame) (status : Status),
      s.journal = before ++ e :: after ∧ e.offered? = some (f, status) ∧
      f.opcode = Opcode.publicCall ∧ status.clientInit = true ∧
      before.linked = true ∧ before.announced = .none := by
  let wire := candidate [.frame ⟨Opcode.start, [2]⟩]
  obtain ⟨s, ran⟩ := Option.isSome_iff_exists.mp (by decide : (hosted wire).isSome = true)
  have shown : (hosted wire).all (fun s => (s.journal[16]?.bind Event.offered?).any
      fun (f, status) => decide (f.opcode = Opcode.publicCall) && status.allows .call) = true := by
    decide
  rw [ran, Option.all_some, Option.any_eq_true] at shown
  obtain ⟨⟨f, status⟩, found, shown⟩ := shown
  obtain ⟨e, at16, offered⟩ := Option.bind_eq_some_iff.mp found
  obtain ⟨call, allowed⟩ := Bool.and_eq_true_iff.mp shown
  have call : f.opcode = Opcode.publicCall := of_decide_eq_true call
  have reached := reachable_hosted rfl ran
  have split := Journal.split_of_getElem? at16
  obtain ⟨init, allows, -⟩ := (offered_permitted reached.occurs split offered).2 call
  exact ⟨s, reached, _, e, _, f, status, split, offered, call, init, allows.mp allowed⟩

/-- If it announces its departure first, the call goes out all the same. -/
theorem exists_forced : ∃ s : Session Scripted.Wire Scripted.Catalog, Reachable s ∧
    ∃ (before : Journal Scripted.Catalog) (f : Frame) (status : Status)
      (after : Journal Scripted.Catalog), s.journal = before ++ .sent f status :: after ∧
      f.opcode = Opcode.publicCall ∧ status.allows .call = false ∧ before.linked = true ∧
      before.announced = .disconnecting := by
  let wire := candidate [.frame ⟨Opcode.disconnect, []⟩, .frame ⟨Opcode.start, [2]⟩]
  obtain ⟨s, ran⟩ := Option.isSome_iff_exists.mp (by decide : (hosted wire).isSome = true)
  have call : (hosted wire).all (fun s => (s.journal[18]?.bind Event.offered?).any
      fun (f, status) => decide (f.opcode = Opcode.publicCall) && !status.allows .call) = true := by
    decide
  have taken : (hosted wire).all (fun s => (s.journal[18]?.bind Event.sent?).isSome &&
      Journal.linked (s.journal.take 18) &&
      decide (Journal.announced (s.journal.take 18) = .disconnecting)) = true := by decide
  rw [ran, Option.all_some, Option.any_eq_true] at call
  rw [ran, Option.all_some, Bool.and_eq_true, Bool.and_eq_true, decide_eq_true_eq] at taken
  obtain ⟨⟨f, status⟩, found, shown⟩ := call
  obtain ⟨e, at18, offered⟩ := Option.bind_eq_some_iff.mp found
  rw [at18, Option.bind_some] at taken
  obtain ⟨⟨sent, linked⟩, announced⟩ := taken
  obtain ⟨call, refused⟩ := Bool.and_eq_true_iff.mp shown
  obtain rfl : e = .sent f status := by
    rcases Event.eq_of_offered offered with rfl | rfl
    · rfl
    · cases sent
  exact ⟨s, reachable_hosted rfl ran, _, f, status, _, Journal.split_of_getElem? at18,
    of_decide_eq_true call, by simpa using refused, linked, announced⟩

end Session

end HostLink
