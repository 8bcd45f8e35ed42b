import HostLink.Proofs.Session.Brings
import HostLink.Scripted.Catalog
import Mathlib.Data.List.Infix

/-!
# HostLink.Proofs.Session.Answered

Lookups and invocations are requests, which the session answers. If all that it sends is taken and
the caller of an invocation fits into a payload, each request is answered in the stride that takes
it in, before anything else is received or sent.

* `Owes`              — what the answer to a request is.
* `Exchange`          — a stride that takes a request in and answers it.
* `Stride.exchange`   — all other strides have to do neither with requests nor with answers.
* `requests_answered` — the requests of a chronicle, and the answers that were sent.
-/

namespace HostLink

/-- Who asks, if a command is a request. -/
def Command.caller? : Command → Option UInt16
  | .findNative caller _ => some caller
  | .invokeNative caller _ => some caller
  | _ => none

/-- The request that a frame is. -/
def Frame.request? (f : Frame) : Option Command :=
  f.command?.filter fun c => c.caller?.isSome

namespace Event

variable {η : Type}

def request? : Event η → Option Command
  | .received f => f.request?
  | _ => none

/-- The payload of an answer that was sent. -/
def reply? : Event η → Option Bytes
  | .sent f _ => if f.opcode = Opcode.reply then some f.payload else none
  | _ => none

/-- An event that is neither a request nor an answer to one. -/
structure Mute (e : Event η) : Prop where
  request : e.request? = none
  reply : e.reply? = none

theorem mute_offered {e : Event η} {opcode : UInt8} {payload : Bytes} {status : Status}
    (offers : e.offered? = some (⟨opcode, payload⟩, status)) (other : opcode ≠ Opcode.reply) :
    Mute e := by
  rcases Event.eq_of_offered offers with rfl | rfl
  · exact ⟨rfl, if_neg other⟩
  · exact ⟨rfl, rfl⟩

theorem mute_received {f : Frame} (other : f.request? = none) : Mute (.received f : Event η) :=
  ⟨other, rfl⟩

theorem mute_asked (name : String) (answer : Option (Native η)) : Mute (.asked name answer) :=
  ⟨rfl, rfl⟩

end Event

theorem Frame.request_plain {f : Frame} (plain : f.Plain) : f.request? = none := by
  unfold request?
  cases decoded : f.command? with
  | none => rfl
  | some c =>
    have c_plain := plain c decoded
    cases c with
    | findNative => cases c_plain
    | invokeNative => cases c_plain
    | _ => rfl

theorem Frame.request_command {f : Frame} {c : Command} (decoded : f.command? = some c) :
    f.request? = if c.caller?.isSome then some c else none := by
  rw [request?, decoded]
  rfl

namespace Journal

variable {η : Type}

/-- The requests that came in. -/
def requests (j : Journal η) : List Command := j.filterMap Event.request?

/-- The answers that were sent. -/
def replies (j : Journal η) : List Bytes := j.filterMap Event.reply?

theorem words_mute {es : Journal η} (mute : ∀ e ∈ es, Event.Mute e) :
    es.requests = [] ∧ es.replies = [] :=
  ⟨List.filterMap_eq_nil_iff.mpr fun e mem => (mute e mem).request,
    List.filterMap_eq_nil_iff.mpr fun e mem => (mute e mem).reply⟩

theorem requests_traffic (j : Journal η) : requests (j.filter Event.isTraffic) = j.requests :=
  filterMap_traffic (fun e aside => by cases e <;> first | rfl | cases aside) j

theorem replies_traffic (j : Journal η) : replies (j.filter Event.isTraffic) = j.replies :=
  filterMap_traffic (fun e aside => by cases e <;> first | rfl | cases aside) j

theorem requests_append (j es : Journal η) : (j ++ es).requests = j.requests ++ es.requests :=
  List.filterMap_append

theorem replies_append (j es : Journal η) : (j ++ es).replies = j.replies ++ es.replies :=
  List.filterMap_append

end Journal

namespace Session

variable {κ η : Type} [Host η]

/-- The handle that a lookup is told. -/
structure Told (u : Session κ η) (name : String) (handle : Int32) : Prop where
  bound : ∀ i, u.natives.index? name = some i → handle = Int32.ofNat i
  found : u.natives.index? name = none → (Host.findNative name u.host).1.isSome →
    u.natives.length < Native.maxHandles → handle = Int32.ofNat u.natives.length
  missing : handle = LookupAnswer.noHandle ↔ name ∉ u.natives.names ∧
    ((Host.findNative name u.host).1 = none ∨ u.natives.length = Native.maxHandles)

/-- What the answer to a request is when a session has taken it in: the caller, and behind it a
handle, or the whole result of a native if there is one and room for it, or nothing. -/
inductive Owes (u : Session κ η) : Command → Bytes → Prop where
  | handle {caller : UInt16} {name : String} {handle : Int32} (told : u.Told name handle) :
      Owes u (.findNative caller name) (Bytes.ofU16 caller ++ Bytes.ofU32 handle.toUInt32)
  | result {caller : UInt16} {request result : Bytes}
      (yields : u.natives.Yields request result u.host)
      (fits : 2 + result.length ≤ u.settings.maxPayloadSize.toNat) :
      Owes u (.invokeNative caller request) (Bytes.ofU16 caller ++ result)
  | nothing {caller : UInt16} {request : Bytes}
      (fails : ∀ result, u.natives.Yields request result u.host →
        u.settings.maxPayloadSize.toNat < 2 + result.length) :
      Owes u (.invokeNative caller request) (Bytes.ofU16 caller)

theorem told_resolve {u : Session κ η} (sound : u.natives.Sound) (name : String) :
    u.Told name (((u.natives.resolve name u.host).lookup.handle?).getD LookupAnswer.noHandle) := by
  have resolves := Native.Table.resolves name u.natives u.host
  have room := sound.room
  -- No place is the handle that stands for none.
  have place {i : Nat} (small : i < Native.maxHandles) : Int32.ofNat i ≠ LookupAnswer.noHandle := by
    intro same
    obtain ⟨nonneg, -⟩ := Native.Table.toNat_ofNat_handle small
    rw [same] at nonneg
    exact nonneg (by decide)
  generalize u.natives.resolve name u.host = r at resolves ⊢
  cases resolves with
  | @known i index =>
    obtain ⟨native, at_i⟩ := Native.Table.index?_eq_some index
    obtain ⟨bound, -⟩ := List.getElem?_eq_some_iff.mp at_i
    have small : i < Native.maxHandles := Nat.lt_of_lt_of_le bound room
    refine ⟨?_, ?_, ?_, ?_⟩
    · intro j index'
      rw [index] at index'
      cases index'
      rfl
    · intro new
      rw [index] at new
      cases new
    · intro none
      exact absurd none (place small)
    · intro ⟨new, _⟩
      rw [← Native.Table.index?_eq_none, index] at new
      cases new
  | unknown new said =>
    refine ⟨?_, ?_, ?_, fun _ => rfl⟩
    · intro i index
      rw [new] at index
      cases index
    · intro _ some
      rw [said] at some
      cases some
    · intro _
      exact ⟨Native.Table.index?_eq_none.mp new, .inl (by rw [said])⟩
  | bound new said free =>
    refine ⟨?_, fun _ _ _ => rfl, ?_, ?_⟩
    · intro i index
      rw [new] at index
      cases index
    · intro none
      exact absurd none (place free)
    · rintro ⟨_, unsaid | full⟩
      · rw [said] at unsaid
        cases unsaid
      · omega
  | full new said full =>
    refine ⟨?_, ?_, ?_, fun _ => rfl⟩
    · intro i index
      rw [new] at index
      cases index
    · intro _ _ free
      omega
    · intro _
      exact ⟨Native.Table.index?_eq_none.mp new, .inr (by omega)⟩

theorem owes_lookup {u : Session κ η} (sound : u.natives.Sound) (caller : UInt16) (name : String) :
    u.Owes (.findNative caller name) (u.lookupReply caller name) :=
  .handle (told_resolve sound name)

theorem owes_invocation (u : Session κ η) (caller : UInt16) (request : Bytes) :
    u.Owes (.invokeNative caller request) (u.invocationReply caller request) := by
  unfold invocationReply
  rcases Native.Table.invoke_bytes request ⟨Bytes.ofU16 caller, u.settings.maxPayloadSize.toNat⟩
    u.natives u.host with ⟨result, yields, fits, bytes⟩ | ⟨fails, bytes⟩
  · rw [bytes]
    exact .result yields fits
  · rw [bytes]
    exact .nothing fails

/-- A request is taken in and answered between two moments. -/
structure Exchange (u v : Session κ η) (f : Frame) (asks : Journal η) (payload : Bytes)
    (status : Status) : Prop where
  consults : ∀ e ∈ asks, ∃ name answer, e = .asked name answer
  traffic : v.traffic =
    u.traffic ++ .received f :: (asks ++ [.sent ⟨Opcode.reply, payload⟩ status])
  owes : ∃ c, f.request? = some c ∧ u.Owes c payload

/-- Each request and each answer is part of an exchange between neighbouring moments. -/
def Exchanged (moments : List (Session κ η)) (before : Journal η) (e : Event η)
    (after : Journal η) : Prop :=
  (∀ f, e = .received f → f.request?.isSome → ∃ u v asks payload status rest,
    [u, v] <:+: moments ∧ Exchange u v f asks payload status ∧ before = u.traffic ∧
      after = asks ++ .sent ⟨Opcode.reply, payload⟩ status :: rest) ∧
  (∀ payload status, e = .sent ⟨Opcode.reply, payload⟩ status → ∃ u v f asks,
    [u, v] <:+: moments ∧ Exchange u v f asks payload status ∧
      before = u.traffic ++ .received f :: asks)

theorem Exchanged.more {moments : List (Session κ η)} {before after rest : Journal η} {e : Event η}
    (h : Exchanged moments before e after) : Exchanged moments before e (after ++ rest) := by
  refine ⟨fun f eq request => ?_, h.2⟩
  obtain ⟨u, v, asks, payload, status, behind, neighbours, exchange, here, rfl⟩ := h.1 f eq request
  exact ⟨u, v, asks, payload, status, behind ++ rest, neighbours, exchange, here, by simp⟩

theorem Exchanged.later {moments : List (Session κ η)} {before after : Journal η} {e : Event η}
    (h : Exchanged moments before e after) (later : List (Session κ η)) :
    Exchanged (moments ++ later) before e after := by
  have neighbours {u v : Session κ η} (near : [u, v] <:+: moments) : [u, v] <:+: moments ++ later :=
    near.trans (List.prefix_append moments later).isInfix
  refine ⟨fun f eq request => ?_, fun payload status eq => ?_⟩
  · obtain ⟨u, v, asks, payload, status, behind, near, exchange⟩ := h.1 f eq request
    exact ⟨u, v, asks, payload, status, behind, neighbours near, exchange⟩
  · obtain ⟨u, v, f, asks, near, exchange⟩ := h.2 payload status eq
    exact ⟨u, v, f, asks, neighbours near, exchange⟩

theorem exchanged_mute {e : Event η} (mute : Event.Mute e) (moments : List (Session κ η))
    (before after : Journal η) : Exchanged moments before e after := by
  refine ⟨fun f eq request => ?_, fun payload status eq => ?_⟩
  · have none := mute.request
    rw [eq] at none
    rw [show f.request? = Option.none from none] at request
    cases request
  · have none := mute.reply
    rw [eq] at none
    cases none

theorem Exchange.exchanged {u v : Session κ η} {f : Frame} {asks : Journal η} {payload : Bytes}
    {status : Status} (exchange : Exchange u v f asks payload status)
    {moments : List (Session κ η)} (near : [u, v] <:+: moments) :
    Journal.Each (Exchanged moments)
      (.received f :: (asks ++ [.sent ⟨Opcode.reply, payload⟩ status])) u.traffic := by
  have consulted : asks.Each (Exchanged moments) (u.traffic ++ [.received f]) := by
    refine Journal.each_of_forall (fun e mem => ?_) _
    obtain ⟨name, answer, rfl⟩ := exchange.consults e mem
    exact exchanged_mute (Event.mute_asked name answer) moments
  have answered : Exchanged moments (u.traffic ++ [.received f] ++ asks)
      (.sent ⟨Opcode.reply, payload⟩ status) [] := by
    refine ⟨nofun, fun payload' status' eq => ?_⟩
    cases eq
    exact ⟨u, v, f, asks, near, exchange, by simp⟩
  refine ⟨⟨fun g eq _ => ?_, nofun⟩, consulted.append ⟨answered, trivial⟩ fun _ _ _ _ => .more⟩
  cases eq
  exact ⟨u, v, asks, payload, status, [], near, exchange, rfl, rfl⟩

/-- Whose answer a payload is. -/
def Answers (c : Command) (payload : Bytes) : Prop :=
  ∃ caller rest, c.caller? = some caller ∧ payload = Bytes.ofU16 caller ++ rest

theorem Owes.answers {u : Session κ η} {c : Command} {payload : Bytes} (owes : u.Owes c payload) :
    Answers c payload := by
  cases owes with
  | handle told => exact ⟨_, _, rfl, rfl⟩
  | result yields fits => exact ⟨_, _, rfl, rfl⟩
  | nothing fails => exact ⟨_, [], rfl, (List.append_nil _).symm⟩

theorem Exchange.words {u v : Session κ η} {f : Frame} {asks : Journal η} {payload : Bytes}
    {status : Status} (exchange : Exchange u v f asks payload status) : ∃ c, Answers c payload ∧
      v.traffic.requests = u.traffic.requests ++ [c] ∧
      v.traffic.replies = u.traffic.replies ++ [payload] := by
  obtain ⟨c, request, owes⟩ := exchange.owes
  have mute : ∀ e ∈ asks, Event.Mute e := by
    intro e mem
    obtain ⟨name, answer, rfl⟩ := exchange.consults e mem
    exact Event.mute_asked name answer
  obtain ⟨unasked, unsaid⟩ := Journal.words_mute mute
  refine ⟨c, owes.answers, ?_, ?_⟩
  · have taken (es : Journal η) : Journal.requests (.received f :: es) = c :: es.requests :=
      List.filterMap_cons_some request
    rw [exchange.traffic, Journal.requests_append, taken, Journal.requests_append, unasked]
    rfl
  · have taken (es : Journal η) : Journal.replies (.received f :: es) = es.replies := rfl
    rw [exchange.traffic, Journal.replies_append, taken, Journal.replies_append, unsaid]
    rfl

variable [Channel κ]

/-- Serving a frame is an exchange or has to do neither with requests nor with answers. -/
theorem Hears.exchange {u v : Session κ η} {c : κ} {f : Frame} {es : Journal η}
    (hears : Hears f ({ u with channel := c }.hear f) v es) (sound : u.natives.Sound)
    (traffic : v.traffic = u.traffic ++ .received f :: es)
    (sending : ∀ f status, .unsent f status ∉ v.traffic)
    (wide : 2 ≤ u.settings.maxPayloadSize.toNat) :
    (∀ e ∈ .received f :: es, Event.Mute e) ∨
      ∃ asks payload status, Exchange u v f asks payload status := by
  have sent {e : Event η} {g : Frame} {status : Status} (mem : e ∈ es)
      (offers : e.offered? = some (g, status)) : e = .sent g status := by
    rcases Event.eq_of_offered offers with rfl | rfl
    · rfl
    · exact absurd (by rw [traffic]; simp [mem]) (sending g status)
  have other {d : Command} (decoded : f.command? = some d) (none : d.caller? = none) :
      Event.Mute (.received f : Event η) := by
    refine Event.mute_received ?_
    rw [Frame.request_command decoded, none]
    rfl
  cases hears with
  | ignored plain =>
    left
    simpa using Event.mute_received (Frame.request_plain plain)
  | ponged plain gist offers =>
    left
    simpa using ⟨Event.mute_received (Frame.request_plain plain),
      Event.mute_offered offers (by decide)⟩
  | registered decoded =>
    left
    simpa using other decoded rfl
  | @lookedUp caller name e decoded gist offers =>
    right
    obtain rfl := sent (by simp) offers
    refine ⟨_, _, _, fun e mem => ?_, traffic, _, Frame.request_command decoded,
      owes_lookup sound caller name⟩
    obtain ⟨answer, -, rfl⟩ := List.mem_map.mp mem
    exact ⟨name, answer, rfl⟩
  | cramped decoded narrow =>
    -- The caller does not fit into a payload, which `wide` excludes.
    have narrow : u.settings.maxPayloadSize.toNat < 2 := narrow
    omega
  | @invoked caller request e decoded room gist offers =>
    right
    obtain rfl := sent (by simp) offers
    exact ⟨[], _, _, by simp, traffic, _, Frame.request_command decoded,
      owes_invocation u caller request⟩
  | leaving decoded =>
    left
    simpa using other decoded rfl
  | returning decoded =>
    left
    simpa using other decoded rfl
  | returned decoded =>
    left
    simpa using ⟨other decoded rfl, ⟨rfl, rfl⟩⟩
  | called decoded gist init allows short offers =>
    left
    simpa using ⟨other decoded rfl, Event.mute_offered offers (by decide)⟩

theorem Stride.exchange {u v : Session κ η} (stride : Stride u v) (sound : u.natives.Sound)
    (sending : ∀ f status, .unsent f status ∉ v.traffic)
    (wide : 2 ≤ u.settings.maxPayloadSize.toNat) :
    (∃ es, v.traffic = u.traffic ++ es ∧ ∀ e ∈ es, Event.Mute e) ∨
      ∃ f asks payload status, Exchange u v f asks payload status := by
  obtain ⟨es, traffic, brings⟩ := stride.brings
  cases brings with
  | nothing => exact .inl ⟨_, traffic, by simp⟩
  | beaten gist allowed offers =>
    exact .inl ⟨_, traffic, by simpa using Event.mute_offered offers (by decide)⟩
  | called gist allowed init short offers =>
    exact .inl ⟨_, traffic, by simpa using Event.mute_offered offers (by decide)⟩
  | entered gist written offers =>
    exact .inl ⟨_, traffic, by simpa using ⟨⟨rfl, rfl⟩, Event.mute_offered offers (by decide)⟩⟩
  | ended => exact .inl ⟨_, traffic, by simpa using ⟨rfl, rfl⟩⟩
  | heard hears =>
    rcases hears.exchange sound traffic sending wide with mute | ⟨asks, payload, status, exchange⟩
    · exact .inl ⟨_, traffic, mute⟩
    · exact .inr ⟨_, asks, payload, status, exchange⟩

/-! ## The exchanges of a chronicle -/

theorem Chronicle.exchanged {moments : List (Session κ η)} {s : Session κ η}
    (life : Chronicle moments s) (sending : ∀ f status, .unsent f status ∉ s.traffic)
    (wide : 2 ≤ s.settings.maxPayloadSize.toNat) :
    s.traffic.Each (Exchanged (moments ++ [s])) [] ∧
      List.Forall₂ Answers s.traffic.requests s.traffic.replies := by
  induction life with
  | made settings listener channel host =>
    rw [traffic_make]
    exact ⟨trivial, .nil⟩
  | @next moments u v before stride ih =>
    have sound := before.occurs.sound_natives
    rw [stride.settings] at wide
    -- What was sent before this stride is in the traffic still, so it was taken as well.
    have near : [u, v] <:+: moments ++ [u] ++ [v] := ⟨moments, [], by simp⟩
    have earlier (es : Journal η) (traffic : v.traffic = u.traffic ++ es) :
        u.traffic.Each (Exchanged (moments ++ [u] ++ [v])) [] ∧
          List.Forall₂ Answers u.traffic.requests u.traffic.replies := by
      have earlier (f : Frame) (status : Status) : .unsent f status ∉ u.traffic :=
        fun mem => sending f status (by simp [traffic, mem])
      obtain ⟨each, answers⟩ := ih earlier wide
      exact ⟨each.imp fun _ _ _ h => h.later [v], answers⟩
    rcases stride.exchange sound sending wide with
      ⟨es, traffic, mute⟩ | ⟨f, asks, payload, status, exchange⟩
    · obtain ⟨each, answers⟩ := earlier es traffic
      obtain ⟨unasked, unsaid⟩ := Journal.words_mute mute
      refine ⟨?_, ?_⟩
      · rw [traffic]
        refine each.append (Journal.each_of_forall (fun e mem => ?_) _) fun _ _ _ _ => .more
        exact exchanged_mute (mute e mem) _
      · rw [traffic, Journal.requests_append, Journal.replies_append, unasked, unsaid]
        simpa using answers
    · obtain ⟨each, answers⟩ := earlier _ exchange.traffic
      obtain ⟨c, whose, requests, replies⟩ := exchange.words
      refine ⟨?_, ?_⟩
      · rw [exchange.traffic]
        exact each.append (exchange.exchanged near) fun _ _ _ _ => .more
      · rw [requests, replies]
        exact List.rel_append answers (.cons whose .nil)

/-- If all that a session sends is taken, and a payload has room for a caller, the answers that were
sent are those to the requests that came in, one to each and in their order. What lies between a
request and its answer is that the host was asked for a native; both belong to one stride, and the
answer is what the session before it owes. -/
theorem requests_answered {moments : List (Session κ η)} {s : Session κ η}
    (life : Chronicle moments s) (sending : ∀ f status, .unsent f status ∉ s.journal)
    (wide : 2 ≤ s.settings.maxPayloadSize.toNat) :
    List.Forall₂ Answers s.journal.requests s.journal.replies ∧
    (∀ before f after, s.traffic = before ++ .received f :: after → f.request?.isSome →
      ∃ u v asks payload status rest, [u, v] <:+: moments ++ [s] ∧
        Exchange u v f asks payload status ∧ before = u.traffic ∧
        after = asks ++ .sent ⟨Opcode.reply, payload⟩ status :: rest) ∧
    (∀ before payload status after,
      s.traffic = before ++ .sent ⟨Opcode.reply, payload⟩ status :: after →
      ∃ u v f asks, [u, v] <:+: moments ++ [s] ∧ Exchange u v f asks payload status ∧
        before = u.traffic ++ .received f :: asks) := by
  have taken : ∀ f status, .unsent f status ∉ s.traffic :=
    fun f status mem => sending f status (List.mem_of_mem_filter mem)
  obtain ⟨each, answers⟩ := life.exchanged taken wide
  have exchanged {before after : Journal η} {e : Event η}
      (split : s.traffic = before ++ e :: after) : Exchanged (moments ++ [s]) before e after := by
    rw [split] at each
    exact each.at
  refine ⟨?_, fun before f after split => ?_, fun before payload status after split => ?_⟩
  · rw [← Journal.requests_traffic, ← Journal.replies_traffic]
    exact answers
  · exact (exchanged split).1 f rfl
  · exact (exchanged split).2 payload status rfl

/-- A runtime that looks a native up twice, invokes it, and invokes what is not there. -/
def client : Scripted.Wire :=
  let lookup (caller : UInt8) : Scripted.Item :=
    .frame ⟨Opcode.findNative, [caller, 0, 102, 111, 111, 0]⟩
  { peers := [.visit [lookup 1, lookup 2, .frame ⟨Opcode.invokeNative, [3, 0, 0, 0, 0, 0, 7]⟩,
      .frame ⟨Opcode.invokeNative, [4, 0, 1, 0, 0, 0]⟩]] }

/-- All four of its requests are answered. -/
theorem requests_answered_attended : ∃ (moments : List (Session Scripted.Wire Scripted.Catalog))
    (s : Session Scripted.Wire Scripted.Catalog), Chronicle moments s ∧ Reachable s ∧
    s.journal.requests.map Command.caller? = [some 1, some 2, some 3, some 4] ∧
    List.Forall₂ Answers s.journal.requests s.journal.replies := by
  let catalog : Scripted.Catalog := { natives := [("foo", .echo)] }
  obtain ⟨s, ran⟩ := Option.isSome_iff_exists.mp
    (by decide : (ticked {} client catalog).isSome = true)
  have shown : (ticked {} client catalog).all (fun s => decide (
      2 ≤ s.settings.maxPayloadSize.toNat ∧
      s.journal.requests.map Command.caller? = [some 1, some 2, some 3, some 4] ∧
      ∀ e ∈ s.journal, e.sent? = e.offered?.map Prod.fst)) = true := by decide
  rw [ran, Option.all_some, decide_eq_true_eq] at shown
  obtain ⟨wide, callers, taken⟩ := shown
  have reached := reachable_ticked rfl ran
  obtain ⟨moments, life⟩ := reached.occurs.chronicle
  have sending (f : Frame) (status : Status) : .unsent f status ∉ s.journal :=
    fun mem => nomatch taken _ mem
  exact ⟨moments, s, life, reached, callers, (requests_answered life sending wide).1⟩

end Session

end HostLink
