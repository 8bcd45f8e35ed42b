import HostLink.Proofs.Session.Brings
import HostLink.Scripted.Catalog
import Mathlib.Data.Finset.Card
import Mathlib.Data.List.DropRight

/-!
# HostLink.Proofs.Session.Ledger

The tables of a session against its journal. The *era* of a journal is what has happened since the
tables were last dropped (`Journal.era`). In it the runtime has registered callbacks
(`Journal.registrations`), and the host has found natives that it was asked for
(`Journal.findings`). The tables hold this and nothing else: a callback has the signature that was
registered last, and a native has its place in the order in which they were found.

* `Attended` — a lookup asks the host at once unless its name has been found in the era, and nothing
  else asks the host.
* `Enrols`, `Binds` — what the era says of either table.
* `tables_follow_era` — they do so at every moment.
-/

namespace HostLink

/-- Whether a command is about an entry of a table. -/
def Command.isEntry : Command → Bool
  | .registerCall _ => true
  | .findNative _ _ => true
  | _ => false

/-- The callback that a frame registers, with its signature. -/
def Frame.registration? (f : Frame) : Option (String × Callback.Signature) :=
  match f.command? with
  | some (.registerCall record) => (Callback.readRecord record).toOption
  | _ => none

namespace Event

variable {η : Type}

/-- Whether the tables are dropped. -/
def drops : Event η → Bool
  | .hungUp cause _ => cause.clearsTables
  | _ => false

def registration? : Event η → Option (String × Callback.Signature)
  | .received f => f.registration?
  | _ => none

/-- The native that the host found, with the name that it was asked for. -/
def finding? : Event η → Option (String × Native η)
  | .asked name (some native) => some (name, native)
  | _ => none

@[simp] theorem drops_received (f : Frame) : (received f : Event η).drops = false := rfl

@[simp] theorem drops_asked (name : String) (answer : Option (Native η)) :
    (asked name answer).drops = false := rfl

@[simp] theorem registration_received (f : Frame) :
    (received f : Event η).registration? = f.registration? := rfl

@[simp] theorem registration_asked (name : String) (answer : Option (Native η)) :
    (asked name answer).registration? = none := rfl

end Event

namespace Journal

variable {η : Type}

/-- What has happened since the tables were last dropped. -/
def era (j : Journal η) : Journal η := j.rtakeWhile fun e => !e.drops

/-- The callbacks that were registered, and their signatures. -/
def registrations (j : Journal η) : List (String × Callback.Signature) :=
  j.filterMap Event.registration?

def findings (j : Journal η) : List (String × Native η) := j.filterMap Event.finding?

/-- The names of the natives that the host found. -/
def found (j : Journal η) : List String := j.findings.map Prod.fst

/-- A lookup asks the host at once, unless its name has been found in the era; and the host is asked
for what has just been looked up. -/
def Attended (before : Journal η) (e : Event η) (after : Journal η) : Prop :=
  (∀ f caller name, e = .received f → f.command? = some (.findNative caller name) →
    name ∉ before.era.found → ∃ answer rest, after = .asked name answer :: rest) ∧
  (∀ name answer, e = .asked name answer → ∃ earlier f caller,
    before = earlier ++ [.received f] ∧ f.command? = some (.findNative caller name))

theorem era_append (j : Journal η) {es : Journal η} (kept : ∀ e ∈ es, e.drops = false) :
    (j ++ es).era = j.era ++ es := by
  induction es generalizing j with
  | nil => simp
  | cons e es ih =>
    obtain ⟨first, rest⟩ := List.forall_mem_cons.mp kept
    have step : (j ++ [e]).era = j.era ++ [e] := List.rtakeWhile_concat_pos _ _ _ (by simp [first])
    have split : j ++ e :: es = (j ++ [e]) ++ es := by simp
    rw [split, ih (j ++ [e]) rest, step, List.append_assoc, List.singleton_append]

theorem era_dropped (j : Journal η) {e : Event η} (dropped : e.drops = true) :
    (j ++ [e]).era = [] :=
  List.rtakeWhile_concat_neg _ _ _ (by simp [dropped])

theorem era_traffic (j : Journal η) :
    era (j.filter Event.isTraffic) = j.era.filter Event.isTraffic := by
  induction j using List.reverseRecOn with
  | nil => rfl
  | append_singleton j e ih =>
    rw [List.filter_append]
    cases dropped : e.drops with
    | true =>
      have traffic : e.isTraffic = true := by cases e <;> first | rfl | cases dropped
      rw [List.filter_cons_of_pos traffic, List.filter_nil, era_dropped _ dropped,
        era_dropped _ dropped, List.filter_nil]
    | false =>
      have kept : ∀ e' ∈ [e].filter Event.isTraffic, e'.drops = false := by
        intro e' mem
        rw [List.mem_singleton.mp (List.mem_of_mem_filter mem)]
        exact dropped
      rw [era_append _ kept, era_append j (by simpa using dropped), List.filter_append, ih]

theorem registrations_traffic (j : Journal η) :
    registrations (j.filter Event.isTraffic) = j.registrations :=
  filterMap_traffic (fun e aside => by cases e <;> first | rfl | cases aside) j

theorem findings_traffic (j : Journal η) : findings (j.filter Event.isTraffic) = j.findings :=
  filterMap_traffic (fun e aside => by cases e <;> first | rfl | cases aside) j

theorem registrations_append (j es : Journal η) :
    (j ++ es).registrations = j.registrations ++ es.registrations :=
  List.filterMap_append

theorem findings_append (j es : Journal η) : (j ++ es).findings = j.findings ++ es.findings :=
  List.filterMap_append

theorem Attended.more {before after rest : Journal η} {e : Event η} (h : Attended before e after) :
    Attended before e (after ++ rest) := by
  refine ⟨fun f caller name eq lookup new => ?_, h.2⟩
  obtain ⟨answer, behind, rfl⟩ := h.1 f caller name eq lookup new
  exact ⟨answer, behind ++ rest, rfl⟩

/-- An event that has nothing to do with the tables. -/
structure Bare (e : Event η) : Prop where
  drops : e.drops = false
  registration : e.registration? = none
  lookup : ∀ f caller name, e = .received f → f.command? ≠ some (.findNative caller name)
  asked : ∀ name answer, e ≠ .asked name answer

theorem Bare.finding {e : Event η} (bare : Bare e) : e.finding? = none := by
  cases e with
  | asked name answer => exact absurd rfl (bare.asked name answer)
  | _ => rfl

theorem Bare.attended {e : Event η} (bare : Bare e) (before after : Journal η) :
    Attended before e after :=
  ⟨fun f caller name eq lookup => absurd lookup (bare.lookup f caller name eq),
    fun name answer eq => absurd eq (bare.asked name answer)⟩

theorem bare_offered {e : Event η} {f : Frame} {status : Status}
    (offers : e.offered? = some (f, status)) : Bare e := by
  rcases Event.eq_of_offered offers with rfl | rfl <;> exact ⟨rfl, rfl, nofun, nofun⟩

theorem bare_plain {f : Frame} (plain : f.Plain) : Bare (.received f : Event η) where
  drops := rfl
  registration := by
    change f.registration? = none
    unfold Frame.registration?
    split
    · rename_i record decoded
      exact Option.isNone_iff_eq_none.mp (plain _ decoded)
    · rfl
  lookup g caller name eq := by
    cases eq
    exact fun lookup => nomatch plain _ lookup
  asked := nofun

theorem bare_command {f : Frame} {c : Command} (decoded : f.command? = some c)
    (other : c.isEntry = false) : Bare (.received f : Event η) where
  drops := rfl
  registration := by
    change f.registration? = none
    unfold Frame.registration?
    split
    · rename_i record registers
      rw [decoded] at registers
      cases registers
      cases other
    · rfl
  lookup g caller name eq := by
    cases eq
    intro lookup
    rw [decoded] at lookup
    cases lookup
    cases other
  asked := nofun

theorem bare_letIn (kept : Memory η) : Bare (.letIn kept) := ⟨rfl, rfl, nofun, nofun⟩

/-- An end that was asked for leaves the tables as they are. -/
theorem bare_hungUp (kept : Memory η) : Bare (.hungUp .expected kept) := ⟨rfl, rfl, nofun, nofun⟩

/-! ## A lookup as a piece of traffic -/

section Lookup

variable {f : Frame} {caller : UInt16} {name : String} {answer : Option (Option (Native η))}
  {e : Event η}

theorem kept_lookup (bare : Bare e) :
    ∀ e' ∈ .received f :: (answer.toList.map (.asked name) ++ [e]), e'.drops = false := by
  cases answer with
  | none => simp [bare.drops]
  | some said => simp [bare.drops]

theorem registrations_lookup (bare : Bare e)
    (decoded : f.command? = some (.findNative caller name)) :
    registrations (.received f :: (answer.toList.map (.asked name) ++ [e])) = [] := by
  have frame : f.registration? = none := by simp [Frame.registration?, decoded]
  cases answer with
  | none => simp [registrations, frame, bare.registration]
  | some said => simp [registrations, frame, bare.registration]

theorem findings_lookup (bare : Bare e) :
    findings (.received f :: (answer.toList.map (.asked name) ++ [e])) =
      findings (answer.toList.map (.asked name)) := by
  change findings (answer.toList.map (.asked name) ++ [e]) = _
  rw [findings_append]
  simp [findings, bare.finding]

theorem attended_lookup {j : Journal η} (bare : Bare e)
    (decoded : f.command? = some (.findNative caller name))
    (known : answer = none → name ∈ j.era.found) :
    Each Attended (.received f :: (answer.toList.map (.asked name) ++ [e])) j := by
  have same {g : Frame} {caller' : UInt16} {name' : String}
      (eq : (.received f : Event η) = .received g)
      (lookup : g.command? = some (.findNative caller' name')) : name' = name := by
    cases eq
    rw [decoded] at lookup
    cases lookup
    rfl
  cases answer with
  | none =>
    refine ⟨⟨fun g caller' name' eq lookup new => ?_, nofun⟩, bare.attended _ _, trivial⟩
    rw [same eq lookup] at new
    exact absurd (known rfl) new
  | some said =>
    refine ⟨⟨fun g caller' name' eq lookup new => ?_, nofun⟩, ⟨nofun, fun name' said' eq => ?_⟩,
      bare.attended _ _, trivial⟩
    · rw [same eq lookup]
      exact ⟨said, [e], rfl⟩
    · cases eq
      exact ⟨j, f, caller, rfl, decoded⟩

end Lookup

/-! ## Either table -/

/-- The era says which callbacks there are. -/
def Enrols (j : Journal η) (t : Callback.Table) : Prop :=
  ∀ name, t.get? name = j.era.registrations.reverse.lookup name

theorem Enrols.pass {j es : Journal η} {t : Callback.Table} (h : j.Enrols t)
    (kept : ∀ e ∈ es, e.drops = false) (none : es.registrations = []) : (j ++ es).Enrols t := by
  intro name
  rw [era_append j kept, registrations_append, none, List.append_nil]
  exact h name

theorem Enrols.register {j es : Journal η} {t : Callback.Table} {name : String}
    {signature : Callback.Signature} (h : j.Enrols t) (kept : ∀ e ∈ es, e.drops = false)
    (one : es.registrations = [(name, signature)]) :
    (j ++ es).Enrols (t.insert name signature) := by
  intro other
  rw [era_append j kept, registrations_append, one, List.reverse_append, List.reverse_singleton,
    List.singleton_append, Callback.Table.lookup_cons_eq, Callback.Table.get?_insert, h]

theorem enrols_empty {j : Journal η} (fresh : j.era = []) : j.Enrols .empty := by
  intro name
  rw [fresh]
  rfl

/-- The era says which natives there are, while there are handles for all that were found. -/
structure Binds (j : Journal η) (t : Native.Table η) : Prop where
  found : t.names ⊆ j.era.found
  entries : j.era.found.toFinset.card < Native.maxHandles → t.entries = j.era.findings

theorem Binds.pass {j es : Journal η} {t : Native.Table η} (h : j.Binds t)
    (kept : ∀ e ∈ es, e.drops = false) (none : es.findings = []) : (j ++ es).Binds t := by
  have findings : (j ++ es).era.findings = j.era.findings := by
    rw [era_append j kept, findings_append, none, List.append_nil]
  have found : (j ++ es).era.found = j.era.found := congrArg (List.map Prod.fst) findings
  refine ⟨?_, ?_⟩
  · rw [found]
    exact h.found
  · rw [found, findings]
    exact h.entries

theorem binds_empty {j : Journal η} (fresh : j.era = []) : j.Binds .empty := by
  refine ⟨List.nil_subset _, fun _ => ?_⟩
  rw [fresh]
  rfl

/-- A native that is found is new, so it goes to the end; for want of handles it may be lost. -/
theorem Binds.find {j es : Journal η} {t : Native.Table η} {name : String} {native : Native η}
    (h : j.Binds t) (sound : t.Sound) (kept : ∀ e ∈ es, e.drops = false)
    (one : es.findings = [(name, native)]) :
    (j ++ es).Binds
      (if t.length < Native.maxHandles then ⟨t.entries ++ [(name, native)]⟩ else t) := by
  have findings : (j ++ es).era.findings = j.era.findings ++ [(name, native)] := by
    rw [era_append j kept, findings_append, one]
  have found : (j ++ es).era.found = j.era.found ++ [name] := by
    rw [Journal.found, findings, List.map_append]
    rfl
  have earlier : (j ++ es).era.found.toFinset.card < Native.maxHandles →
      t.entries = j.era.findings := by
    intro few
    refine h.entries (Nat.lt_of_le_of_lt (Finset.card_le_card ?_) few)
    rw [found, List.toFinset_append]
    exact Finset.subset_union_left
  split
  · refine ⟨?_, fun few => ?_⟩
    · rw [found]
      intro other mem
      simp only [Native.Table.names, List.map_append, List.mem_append] at mem ⊢
      exact mem.imp (fun old => h.found old) id
    · rw [findings, earlier few]
  · rename_i full
    -- Without a handle left as many names have been found as there are handles, so nothing is lost
    -- while there are fewer.
    refine ⟨?_, fun few => ?_⟩
    · rw [found]
      exact List.subset_append_of_subset_left _ h.found
    · have names : t.names = j.era.found := congrArg (List.map Prod.fst) (earlier few)
      have all : t.names.toFinset.card = t.length := by
        rw [List.toFinset_card_of_nodup sound.nodup]
        exact List.length_map _
      have some : t.names.toFinset.card ≤ (j ++ es).era.found.toFinset.card := by
        rw [found, names, List.toFinset_append]
        exact Finset.card_le_card Finset.subset_union_left
      omega

theorem Binds.resolve [Host η] {j es : Journal η} {t : Native.Table η} {name : String} {host : η}
    {r : Native.Resolution η} (h : j.Binds t) (sound : t.Sound)
    (resolves : Native.Table.Resolves name t host r) (kept : ∀ e ∈ es, e.drops = false)
    (answers : es.findings = findings (r.answer.toList.map (.asked name))) :
    (j ++ es).Binds r.table := by
  cases resolves with
  | known => exact h.pass kept answers
  | unknown => exact h.pass kept answers
  | @bound native host' new said room =>
    have binds := h.find sound kept (answers : es.findings = [(name, native)])
    rw [if_pos room] at binds
    exact binds
  | @full native host' new said full =>
    have binds := h.find sound kept (answers : es.findings = [(name, native)])
    rw [if_neg (Nat.not_lt.mpr full)] at binds
    exact binds

end Journal

namespace Session

variable {κ η : Type}

/-- The tables agree with the era of a journal, and all its lookups have been attended to. -/
structure Kept (j : Journal η) (s : Session κ η) : Prop where
  enrols : j.Enrols s.callbacks
  binds : j.Binds s.natives
  attended : j.Each Journal.Attended []

theorem Kept.pass {j es : Journal η} {s t : Session κ η} (h : Kept j s)
    (natives : t.gist.natives = s.gist.natives) (callbacks : t.gist.callbacks = s.gist.callbacks)
    (bare : ∀ e ∈ es, Journal.Bare e) : Kept (j ++ es) t := by
  have kept : ∀ e ∈ es, e.drops = false := fun e mem => (bare e mem).drops
  have registrations : es.registrations = [] :=
    List.filterMap_eq_nil_iff.mpr fun e mem => (bare e mem).registration
  have findings : es.findings = [] :=
    List.filterMap_eq_nil_iff.mpr fun e mem => (bare e mem).finding
  refine ⟨?_, ?_, ?_⟩
  · rw [show t.callbacks = s.callbacks from callbacks]
    exact h.enrols.pass kept registrations
  · rw [show t.natives = s.natives from natives]
    exact h.binds.pass kept findings
  · refine h.attended.append ?_ fun _ _ _ _ => .more
    exact Journal.each_of_forall (fun e mem before after => (bare e mem).attended before after) j

/-- What the tables hold is all gone, and so is the era. -/
theorem Kept.dropped {j : Journal η} {t : Session κ η} {cause : Cause} {kept : Memory η}
    (attended : j.Each Journal.Attended []) (clears : cause.clearsTables = true)
    (natives : t.gist.natives = .empty) (callbacks : t.gist.callbacks = .empty) :
    Kept (j ++ [.hungUp cause kept]) t := by
  have fresh : (j ++ [Event.hungUp cause kept]).era = [] := Journal.era_dropped j clears
  refine ⟨?_, ?_, ?_⟩
  · rw [show t.callbacks = .empty from callbacks]
    exact Journal.enrols_empty fresh
  · rw [show t.natives = .empty from natives]
    exact Journal.binds_empty fresh
  · exact attended.append ⟨⟨nofun, nofun⟩, trivial⟩ fun _ _ _ _ => .more

variable [Host η]

theorem Hears.kept {f : Frame} {j es : Journal η} {s t : Session κ η} (hears : Hears f s t es)
    (sound : s.natives.Sound) (h : Kept j s) : Kept (j ++ .received f :: es) t := by
  have bare {c : Command} (decoded : f.command? = some c) (other : c.isEntry = false) :
      Journal.Bare (.received f : Event η) := Journal.bare_command decoded other
  cases hears with
  | ignored plain gist =>
    refine h.pass (by rw [gist]) (by rw [gist]) ?_
    simpa using Journal.bare_plain plain
  | ponged plain gist offers =>
    refine h.pass (by rw [gist]) (by rw [gist]) ?_
    simpa using ⟨Journal.bare_plain plain, Journal.bare_offered offers⟩
  | @registered record name signature decoded read gist =>
    have kept : ∀ e ∈ [(.received f : Event η)], e.drops = false := by simp
    have registration : f.registration? = some (name, signature) := by
      simp [Frame.registration?, decoded, read, Except.toOption]
    refine ⟨?_, ?_, ?_⟩
    · rw [show t.callbacks = s.callbacks.insert name signature from congrArg Gist.callbacks gist]
      refine h.enrols.register kept ?_
      simp [Journal.registrations, registration]
    · rw [show t.natives = s.natives from congrArg Gist.natives gist]
      exact h.binds.pass kept rfl
    · have attended : Journal.Attended j (.received f) [] := by
        refine ⟨fun g caller name eq lookup => ?_, fun name answer eq => by cases eq⟩
        cases eq
        rw [decoded] at lookup
        cases lookup
      exact h.attended.append ⟨attended, trivial⟩ fun _ _ _ _ => .more
  | @lookedUp caller name e decoded gist offers =>
    have resolves := Native.Table.resolves name s.natives s.host
    have natives : t.natives = (s.natives.resolve name s.host).table := congrArg Gist.natives gist
    have last : Journal.Bare e := Journal.bare_offered offers
    generalize s.natives.resolve name s.host = r at resolves natives ⊢
    refine ⟨?_, ?_, ?_⟩
    · rw [show t.callbacks = s.callbacks from congrArg Gist.callbacks gist]
      exact h.enrols.pass (Journal.kept_lookup last) (Journal.registrations_lookup last decoded)
    · rw [natives]
      exact h.binds.resolve sound resolves (Journal.kept_lookup last) (Journal.findings_lookup last)
    · have known : r.answer = none → name ∈ j.era.found := by
        intro unasked
        cases resolves with
        | known index =>
          obtain ⟨native, at_i⟩ := Native.Table.index?_eq_some index
          exact h.binds.found (List.mem_map.mpr ⟨_, List.mem_of_getElem? at_i, rfl⟩)
        | _ => cases unasked
      exact h.attended.append (Journal.attended_lookup last decoded known) fun _ _ _ _ => .more
  | cramped decoded narrow gist =>
    refine h.pass (by rw [gist]) (by rw [gist]) ?_
    simpa using bare decoded rfl
  | invoked decoded wide gist offers =>
    refine h.pass (by rw [gist]) (by rw [gist]) ?_
    simpa using ⟨bare decoded rfl, Journal.bare_offered offers⟩
  | leaving decoded gist =>
    refine h.pass (by rw [gist]) (by rw [gist]) ?_
    simpa using bare decoded rfl
  | returning decoded down gist =>
    refine h.pass (by rw [gist]) (by rw [gist]) ?_
    simpa using bare decoded rfl
  | returned decoded up gist =>
    refine h.pass (by rw [gist]) (by rw [gist]) ?_
    simpa using ⟨bare decoded rfl, Journal.bare_hungUp _⟩
  | called decoded gist init allows short offers =>
    refine h.pass (by rw [gist]) (by rw [gist]) ?_
    simpa using ⟨bare decoded rfl, Journal.bare_offered offers⟩

variable [Channel κ]

theorem Brings.kept {j es : Journal η} {s t : Session κ η} (brings : Brings s t es)
    (sound : s.natives.Sound) (h : Kept j s) : Kept (j ++ es) t := by
  cases brings with
  | nothing gist => exact h.pass (by rw [gist]) (by rw [gist]) (by simp)
  | beaten gist allowed offers =>
    refine h.pass (by rw [gist]) (by rw [gist]) ?_
    simpa using Journal.bare_offered offers
  | called gist allowed init short offers =>
    refine h.pass (by rw [gist]) (by rw [gist]) ?_
    simpa using Journal.bare_offered offers
  | entered gist written offers =>
    refine h.pass (by rw [gist]) (by rw [gist]) ?_
    simpa using ⟨Journal.bare_letIn _, Journal.bare_offered offers⟩
  | @ended cause gist =>
    cases cause with
    | expected =>
      refine h.pass (by rw [gist]; rfl) (by rw [gist]; rfl) ?_
      simpa using Journal.bare_hungUp _
    | declared => exact .dropped h.attended rfl (by rw [gist]; rfl) (by rw [gist]; rfl)
    | unexpected => exact .dropped h.attended rfl (by rw [gist]; rfl) (by rw [gist]; rfl)
  | heard hears => exact hears.kept sound ⟨h.enrols, h.binds, h.attended⟩

theorem Occurs.kept {s : Session κ η} (occurs : s.Occurs) : Kept s.traffic s := by
  refine occurs.keeps (I := fun s => Kept s.traffic s) ?_ fun s t occurs stride kept => ?_
  · intro settings listener channel host
    have gist := gist_make settings listener channel host
    rw [traffic_make]
    refine ⟨?_, ?_, trivial⟩
    · rw [show (make settings listener channel host : Session κ η).callbacks = .empty from
        congrArg Gist.callbacks gist]
      exact Journal.enrols_empty rfl
    · rw [show (make settings listener channel host : Session κ η).natives = .empty from
        congrArg Gist.natives gist]
      exact Journal.binds_empty rfl
  · obtain ⟨es, traffic, brings⟩ := stride.brings
    rw [traffic]
    exact brings.kept occurs.sound_natives kept

/-- While there are handles for all that was found in the era, the tables are its history. The
callbacks are those that were registered in it, each with the signature registered last. The natives
are those that were found in it, in this order and none of them twice, and each has its place as its
handle. All lookups have been attended to. -/
theorem tables_follow_era {s : Session κ η} (occurs : s.Occurs)
    (few : s.journal.era.found.toFinset.card < Native.maxHandles) :
    (∀ name, s.callbacks.get? name = s.journal.era.registrations.reverse.lookup name) ∧
    (s.callbacks.entries.map Prod.fst).Nodup ∧
    s.natives.entries = s.journal.era.findings ∧ s.journal.era.found.Nodup ∧
    (∀ i name native, s.natives.entries[i]? = some (name, native) →
      s.natives.index? name = some i ∧ s.natives.get? (Int32.ofNat i) = some native) ∧
    ∀ before e after, s.traffic = before ++ e :: after → Journal.Attended before e after := by
  have kept := occurs.kept
  have sound := occurs.sound_natives
  have era : s.traffic.era = s.journal.era.filter Event.isTraffic := Journal.era_traffic s.journal
  have findings : s.traffic.era.findings = s.journal.era.findings := by
    rw [era, Journal.findings_traffic]
  have found : s.traffic.era.found = s.journal.era.found := congrArg (List.map Prod.fst) findings
  have entries : s.natives.entries = s.journal.era.findings := by
    rw [← findings]
    exact kept.binds.entries (by rw [found]; exact few)
  refine ⟨fun name => ?_, s.callbacks.distinct, entries, ?_, fun i name native at_i => ⟨?_, ?_⟩,
    fun before e after split => ?_⟩
  · rw [kept.enrols, era, Journal.registrations_traffic]
  · have names : s.natives.names = s.journal.era.found := congrArg (List.map Prod.fst) entries
    rw [← names]
    exact sound.nodup
  · exact Native.Table.index?_of_getElem? sound.nodup at_i
  · obtain ⟨bound, -⟩ := List.getElem?_eq_some_iff.mp at_i
    exact Native.Table.get?_of_getElem? (Nat.lt_of_lt_of_le bound sound.room) at_i
  · have attended := kept.attended
    rw [split] at attended
    exact attended.at

/-- A runtime that registers a callback and dies, and one that registers another and looks up a
native twice. -/
def registrants : Scripted.Wire :=
  let lookup : Scripted.Item := .frame ⟨Opcode.findNative, [0, 0, 102, 111, 111, 0]⟩
  { peers := [
      .visit [.frame ⟨Opcode.registerCall, Utf8.encode "OnStart" ++ [0]⟩, .dead],
      .visit [.frame ⟨Opcode.registerCall, Utf8.encode "OnStop" ++ [0]⟩, lookup, lookup]] }

/-- The session with either in turn. -/
def enrolled : Option (Session Scripted.Wire Scripted.Catalog) :=
  (ticked {} registrants { natives := [("foo", .echo)] }).bind (·.tick 9)

theorem reachable_enrolled {s : Session Scripted.Wire Scripted.Catalog} (h : enrolled = some s) :
    Reachable s := by
  obtain ⟨r, first, second⟩ := Option.bind_eq_some_iff.mp h
  obtain ⟨deeds, run⟩ := reachable_ticked rfl first
  exact ⟨_, run.did 9 .tick second⟩

/-- What the first has registered is gone, and the native is bound once. -/
theorem tables_follow_enrolled : ∃ s : Session Scripted.Wire Scripted.Catalog, Reachable s ∧
    s.journal.registrations.map Prod.fst = ["OnStart", "OnStop"] ∧
    s.callbacks.get? "OnStart" = none ∧ s.callbacks.get? "OnStop" = some [] ∧
    s.natives.names = ["foo"] := by
  obtain ⟨s, ran⟩ := Option.isSome_iff_exists.mp (by decide : enrolled.isSome = true)
  have shown : enrolled.all (fun s => decide (s.journal.era.found = ["foo"] ∧
      s.journal.era.registrations = [("OnStop", [])] ∧
      s.journal.registrations.map Prod.fst = ["OnStart", "OnStop"])) = true := by decide
  rw [ran, Option.all_some, decide_eq_true_eq] at shown
  obtain ⟨found, registrations, both⟩ := shown
  have reached := reachable_enrolled ran
  obtain ⟨callbacks, -, natives, -⟩ :=
    tables_follow_era reached.occurs (by rw [found]; decide)
  refine ⟨s, reached, both, ?_, ?_, ?_⟩
  · rw [callbacks, registrations]
    rfl
  · rw [callbacks, registrations]
    rfl
  · rw [← found, Native.Table.names, natives]
    rfl

end Session

end HostLink
