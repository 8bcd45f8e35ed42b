import HostLink.Proofs.Session.Brings
import HostLink.Scripted.Catalog

/-!
# HostLink.Proofs.Session.Size

How large the frames of a session are. Calls and answers to invocations are written under the limit
that the settings give, heartbeats and pongs are empty. Announcements and answers to lookups are
written without regard to it; their sizes are fixed by the settings, the directory of the process
among them, and by nothing else. So the limit holds for all frames exactly if it has room for an
announcement, as soon as somebody was let in, and for the answer to a lookup, as soon as there was
one.

* `Sized` — a piece of traffic whose frames are of these sizes. It composes.
* `payloads_within_iff` — when a session keeps to its limit.
-/

namespace HostLink

/-- The size of the announcement that the settings call for. -/
def SessionSettings.announcementSize (settings : SessionSettings) : Nat :=
  8 + (Announcement.ofSettings settings).sentDir.length

/-- The size of an answer to a lookup. -/
def LookupAnswer.size : Nat := 6

namespace Journal

variable {η : Type}

/-- The frames that were handed to the channel, taken or not. -/
def offered (j : Journal η) : List Frame := j.filterMap fun e => e.offered?.map Prod.fst

/-- Somebody was let in. -/
def Visited (j : Journal η) : Prop := ∃ kept, .letIn kept ∈ j

/-- A lookup came in. -/
def Queried (j : Journal η) : Prop :=
  ∃ f caller name, .received f ∈ j ∧ f.command? = some (.findNative caller name)

/-- How large a frame is, and what it is due to. -/
def Fits (settings : SessionSettings) (j : Journal η) (f : Frame) : Prop :=
  f.payload.length ≤ settings.maxPayloadSize.toNat ∨
    f.opcode = Opcode.announce ∧ f.payload.length = settings.announcementSize ∧ j.Visited ∨
    f.opcode = Opcode.reply ∧ f.payload.length = LookupAnswer.size ∧ j.Queried

/-- How large the frames in a piece of traffic are, and what is sure to be among them. -/
structure Sized (settings : SessionSettings) (j : Journal η) : Prop where
  fits : ∀ f ∈ j.offered, j.Fits settings f
  visited : j.Visited → ∃ f ∈ j.offered, f.payload.length = settings.announcementSize
  queried : j.Queried → ∃ f ∈ j.offered, f.payload.length = LookupAnswer.size

theorem Visited.mono {j j' : Journal η} (h : j.Visited) (sub : j ⊆ j') : j'.Visited := by
  obtain ⟨kept, mem⟩ := h
  exact ⟨kept, sub mem⟩

theorem Queried.mono {j j' : Journal η} (h : j.Queried) (sub : j ⊆ j') : j'.Queried := by
  obtain ⟨f, caller, name, mem, lookup⟩ := h
  exact ⟨f, caller, name, sub mem, lookup⟩

theorem Fits.mono {settings : SessionSettings} {j j' : Journal η} {f : Frame}
    (h : j.Fits settings f) (sub : j ⊆ j') : j'.Fits settings f := by
  rcases h with short | ⟨announce, size, visited⟩ | ⟨reply, size, queried⟩
  · exact .inl short
  · exact .inr (.inl ⟨announce, size, visited.mono sub⟩)
  · exact .inr (.inr ⟨reply, size, queried.mono sub⟩)

theorem offered_append (j es : Journal η) : (j ++ es).offered = j.offered ++ es.offered := by
  simp [offered]

theorem offered_single {e : Event η} {f : Frame} {status : Status}
    (offers : e.offered? = some (f, status)) : offered [e] = [f] := by
  simp [offered, offers]

theorem offered_asked (name : String) (answers : List (Option (Native η))) :
    offered (answers.map (.asked name)) = [] := by
  simp [offered, Event.offered?]

theorem Sized.append {settings : SessionSettings} {j es : Journal η} (h : j.Sized settings)
    (h' : es.Sized settings) : (j ++ es).Sized settings where
  fits f mem := by
    rw [offered_append, List.mem_append] at mem
    rcases mem with mem | mem
    · exact (h.fits f mem).mono (List.subset_append_left j es)
    · exact (h'.fits f mem).mono (List.subset_append_right j es)
  visited came := by
    simp only [Visited, List.mem_append, exists_or] at came
    simp only [offered_append, List.mem_append, or_and_right, exists_or]
    exact came.imp h.visited h'.visited
  queried came := by
    simp only [Queried, List.mem_append, or_and_right, exists_or] at came
    simp only [offered_append, List.mem_append, or_and_right, exists_or]
    exact came.imp h.queried h'.queried

theorem Sized.nil (settings : SessionSettings) : Sized settings ([] : Journal η) where
  fits f mem := by simp [offered] at mem
  visited came := by simp [Visited] at came
  queried came := by simp [Queried] at came

/-- A frame within the limit. -/
theorem Sized.short {settings : SessionSettings} {e : Event η} {f : Frame} {status : Status}
    (offers : e.offered? = some (f, status))
    (short : f.payload.length ≤ settings.maxPayloadSize.toNat) : Sized settings [e] where
  fits g mem := by
    obtain rfl : g = f := by simpa [offered, offers] using mem
    exact .inl short
  visited came := by
    obtain ⟨kept, mem⟩ := came
    obtain rfl := List.mem_singleton.mp mem
    cases offers
  queried came := by
    obtain ⟨g, -, -, mem, -⟩ := came
    obtain rfl := List.mem_singleton.mp mem
    cases offers

/-- A frame that came in and is no lookup. -/
theorem Sized.heard {f : Frame} (settings : SessionSettings)
    (other : ∀ caller name, f.command? ≠ some (.findNative caller name)) :
    Sized settings [(.received f : Event η)] where
  fits g mem := by simp [offered, Event.offered?] at mem
  visited came := by simp [Visited] at came
  queried came := by
    obtain ⟨g, caller, name, mem, lookup⟩ := came
    cases List.mem_singleton.mp mem
    exact absurd lookup (other caller name)

theorem Sized.hungUp (settings : SessionSettings) (cause : Cause) (kept : Memory η) :
    Sized settings [.hungUp cause kept] where
  fits g mem := by simp [offered, Event.offered?] at mem
  visited came := by simp [Visited] at came
  queried came := by simp [Queried] at came

/-- Somebody was let in and the announcement handed over. -/
theorem Sized.entered {settings : SessionSettings} {kept : Memory η} {e : Event η}
    {payload : Bytes} {status : Status}
    (offers : e.offered? = some (⟨Opcode.announce, payload⟩, status))
    (size : payload.length = settings.announcementSize) : Sized settings [.letIn kept, e] := by
  have offered : offered [.letIn kept, e] = [⟨Opcode.announce, payload⟩] := offered_single offers
  refine ⟨fun f mem => ?_, fun _ => ⟨⟨Opcode.announce, payload⟩, by simp [offered], size⟩, ?_⟩
  · rw [offered, List.mem_singleton] at mem
    subst mem
    exact .inr (.inl ⟨rfl, size, kept, by simp⟩)
  · rintro ⟨f, caller, name, mem, -⟩
    simp only [List.mem_cons, reduceCtorEq, List.not_mem_nil, or_false, false_or] at mem
    subst mem
    cases offers

/-- A lookup came in and its answer was handed over. -/
theorem Sized.lookedUp {settings : SessionSettings} {f : Frame} {caller : UInt16} {name : String}
    {e : Event η} {payload : Bytes} {status : Status}
    (decoded : f.command? = some (.findNative caller name))
    (offers : e.offered? = some (⟨Opcode.reply, payload⟩, status))
    (size : payload.length = LookupAnswer.size) (answers : List (Option (Native η))) :
    Sized settings (.received f :: (answers.map (.asked name) ++ [e])) := by
  have queried : Queried (.received f :: (answers.map (.asked name) ++ [e])) :=
    ⟨f, caller, name, by simp, decoded⟩
  have offered : offered (.received f :: (answers.map (.asked name) ++ [e])) =
      [⟨Opcode.reply, payload⟩] := by
    change Journal.offered (answers.map (.asked name) ++ [e]) = _
    rw [offered_append, offered_asked, offered_single offers]
    rfl
  refine ⟨fun g mem => ?_, ?_, fun _ => ⟨⟨Opcode.reply, payload⟩, by simp [offered], size⟩⟩
  · rw [offered, List.mem_singleton] at mem
    subst mem
    exact .inr (.inr ⟨rfl, size, queried⟩)
  · rintro ⟨kept, mem⟩
    simp only [List.mem_cons, reduceCtorEq, List.mem_append, List.mem_map, and_false,
      exists_false, List.not_mem_nil, or_false, false_or] at mem
    subst mem
    cases offers

end Journal

namespace Session

variable {κ η : Type}

theorem invocationReply_short {caller : UInt16} {request : Bytes} {s : Session κ η}
    (wide : 2 ≤ s.settings.maxPayloadSize.toNat) :
    (s.invocationReply caller request).length ≤ s.settings.maxPayloadSize.toNat := by
  rw [invocationReply]
  rcases Native.Table.invoke_bytes request ⟨Bytes.ofU16 caller, s.settings.maxPayloadSize.toNat⟩
    s.natives s.host with ⟨result, -, room, bytes⟩ | ⟨-, bytes⟩
  · rw [bytes, List.length_append]
    exact room
  · rw [bytes]
    exact wide

variable [Host η]

theorem Hears.sized {f : Frame} {es : Journal η} {s t : Session κ η} (hears : Hears f s t es) :
    Journal.Sized s.settings (.received f :: es) := by
  have heard {c : Command} (decoded : f.command? = some c)
      (other : ∀ caller name, c ≠ .findNative caller name) :
      Journal.Sized s.settings [(.received f : Event η)] := by
    refine .heard s.settings fun caller name lookup => ?_
    rw [decoded] at lookup
    exact other caller name (Option.some.inj lookup)
  have plainly (plain : f.Plain) : Journal.Sized s.settings [(.received f : Event η)] :=
    .heard s.settings fun caller name lookup => nomatch plain _ lookup
  cases hears with
  | ignored plain => exact plainly plain
  | ponged plain gist offers => exact (plainly plain).append (.short offers (Nat.zero_le _))
  | registered decoded => exact heard decoded (by simp)
  | lookedUp decoded gist offers => exact .lookedUp decoded offers rfl _
  | cramped decoded => exact heard decoded (by simp)
  | invoked decoded wide gist offers =>
    exact (heard decoded (by simp)).append (.short offers (invocationReply_short wide))
  | leaving decoded => exact heard decoded (by simp)
  | returning decoded => exact heard decoded (by simp)
  | returned decoded => exact (heard decoded (by simp)).append (.hungUp _ _ _)
  | called decoded gist init allows short offers =>
    exact (heard decoded (by simp)).append (.short offers short)

variable [Channel κ]

theorem Brings.sized {es : Journal η} {s t : Session κ η} (brings : Brings s t es) :
    es.Sized s.settings := by
  cases brings with
  | nothing => exact .nil s.settings
  | beaten gist allowed offers => exact .short offers (Nat.zero_le _)
  | called gist allowed init short offers => exact .short offers short
  | @entered payload e gist written offers =>
    refine .entered offers ?_
    rw [Announcement.encode_eq] at written
    cases written
    simp only [List.length_append, Bytes.length_ofU32, SessionSettings.announcementSize]
    omega
  | ended => exact .hungUp _ _ _
  | heard hears => exact hears.sized

theorem Occurs.sized {s : Session κ η} (occurs : s.Occurs) : s.traffic.Sized s.settings := by
  refine occurs.keeps (I := fun s => s.traffic.Sized s.settings) ?_ fun s t _ stride sized => ?_
  · intro settings listener channel host
    rw [traffic_make]
    exact .nil _
  · obtain ⟨es, traffic, brings⟩ := stride.brings
    rw [traffic, stride.settings]
    exact sized.append brings.sized

theorem Occurs.sized_journal {s : Session κ η} (occurs : s.Occurs) :
    s.journal.Sized s.settings := by
  have sized := occurs.sized
  have offered : s.traffic.offered = s.journal.offered :=
    Journal.filterMap_traffic (fun e aside => by cases e <;> first | rfl | cases aside) s.journal
  have visited : s.traffic.Visited ↔ s.journal.Visited := by
    simp [Journal.Visited, Session.traffic, Event.isTraffic]
  have queried : s.traffic.Queried ↔ s.journal.Queried := by
    simp [Journal.Queried, Session.traffic, Event.isTraffic]
  refine ⟨fun f mem => ?_, ?_, ?_⟩
  · rw [← offered] at mem
    exact (sized.fits f mem).mono fun e mem => (List.mem_filter.mp mem).1
  · rw [← visited, ← offered]
    exact sized.visited
  · rw [← queried, ← offered]
    exact sized.queried

/-- A session keeps to the limit of its settings exactly if an announcement is within it, once
somebody was let in, and the answer to a lookup is, once there was a lookup. Whatever is not within
it is one of these two. -/
theorem payloads_within_iff {s : Session κ η} (occurs : s.Occurs) :
    ((∀ f ∈ s.journal.offered, f.payload.length ≤ s.settings.maxPayloadSize.toNat) ↔
      (s.journal.Visited → s.settings.announcementSize ≤ s.settings.maxPayloadSize.toNat) ∧
      (s.journal.Queried → LookupAnswer.size ≤ s.settings.maxPayloadSize.toNat)) ∧
    ∀ f ∈ s.journal.offered, s.settings.maxPayloadSize.toNat < f.payload.length →
      f.opcode = Opcode.announce ∧ f.payload.length = s.settings.announcementSize ∨
      f.opcode = Opcode.reply ∧ f.payload.length = LookupAnswer.size := by
  have sized := occurs.sized_journal
  refine ⟨⟨fun within => ⟨fun visited => ?_, fun queried => ?_⟩, ?_⟩, fun f mem large => ?_⟩
  · obtain ⟨f, mem, size⟩ := sized.visited visited
    rw [← size]
    exact within f mem
  · obtain ⟨f, mem, size⟩ := sized.queried queried
    rw [← size]
    exact within f mem
  · intro ⟨announcement, answer⟩ f mem
    rcases sized.fits f mem with short | ⟨-, size, visited⟩ | ⟨-, size, queried⟩
    · exact short
    · rw [size]
      exact announcement visited
    · rw [size]
      exact answer queried
  · rcases sized.fits f mem with short | ⟨announce, size, -⟩ | ⟨reply, size, -⟩
    · omega
    · exact .inl ⟨announce, size⟩
    · exact .inr ⟨reply, size⟩

/-- A runtime that looks a native up. -/
def seeker : Scripted.Wire :=
  { peers := [.visit [.frame ⟨Opcode.findNative, [0, 0, 102, 111, 111, 0]⟩]] }

/-- Under the usual limit all frames are within it. -/
theorem payloads_within_sought : ∃ s : Session Scripted.Wire Scripted.Catalog, Reachable s ∧
    s.journal.offered.length = 2 ∧
    ∀ f ∈ s.journal.offered, f.payload.length ≤ s.settings.maxPayloadSize.toNat := by
  let catalog : Scripted.Catalog := { natives := [] }
  obtain ⟨s, ran⟩ := Option.isSome_iff_exists.mp
    (by decide : (ticked {} seeker catalog).isSome = true)
  have shown : (ticked {} seeker catalog).all (fun s => decide (s.journal.offered.length = 2 ∧
      s.settings.announcementSize ≤ s.settings.maxPayloadSize.toNat ∧
      LookupAnswer.size ≤ s.settings.maxPayloadSize.toNat)) = true := by decide
  rw [ran, Option.all_some, decide_eq_true_eq] at shown
  obtain ⟨two, announcement, answer⟩ := shown
  have reached := reachable_ticked rfl ran
  exact ⟨s, reached, two,
    (payloads_within_iff reached.occurs).1.mpr ⟨fun _ => announcement, fun _ => answer⟩⟩

/-- Under a limit of five bytes neither frame is, and both are sent. -/
theorem exists_oversized : ∃ s : Session Scripted.Wire Scripted.Catalog, Reachable s ∧
    s.settings.maxPayloadSize = 5 ∧ s.journal.sent.length = 2 ∧
    ∀ f ∈ s.journal.sent, s.settings.maxPayloadSize.toNat < f.payload.length := by
  let tight : SessionSettings := { maxPayloadSize := 5 }
  let catalog : Scripted.Catalog := { natives := [] }
  obtain ⟨s, ran⟩ := Option.isSome_iff_exists.mp
    (by decide : (ticked tight seeker catalog).isSome = true)
  have shown : (ticked tight seeker catalog).all (fun s => decide (s.settings.maxPayloadSize = 5 ∧
      s.journal.sent.length = 2 ∧
      ∀ f ∈ s.journal.sent, s.settings.maxPayloadSize.toNat < f.payload.length)) = true := by decide
  rw [ran, Option.all_some, decide_eq_true_eq] at shown
  exact ⟨s, reachable_ticked rfl ran, shown⟩

end Session

end HostLink
