import HostLink.Proofs.Pause.Run

/-!
# HostLink.Proofs.Pause.Ration

How heartbeats are rationed while a runtime is paused. A detector is watched from its beginning, as a
session uses it: it hears of the runtime, a call is checked, or a tick, and the heartbeat goes out
exactly if the tick was let through (`Watched`). What was seen is kept in a history, latest first.

From the history alone it can be told when the runtime counts as paused (`stale`), whether a check
has noticed this pause (`noticed`), and how many ticks were held back since the last heartbeat
(`suppressed`). The detector keeps these in a mark and a count of its own.

* `noticed_iff` — what it means that a pause was noticed.
* `found_eq_noticed` — while a pause lasts, the mark tells whether it was noticed.
* `Watched.tracks` — the mark and the count are those of the history.
* `keepalives_rationed` — so a tick is let through exactly if the history says so.
-/

namespace HostLink.Pause

/-- Something that was seen of a detector; `held` is the answer to a check. -/
inductive Entry where
  | interaction (now : Int)
  | call (now : Int) (held : Bool)
  | tick (now : Int) (held : Bool)
  deriving DecidableEq, Repr

namespace Entry

def time : Entry → Int
  | interaction now => now
  | call now _ => now
  | tick now _ => now

def isCheck : Entry → Bool
  | interaction _ => false
  | call _ _ => true
  | tick _ _ => true

def interaction? : Entry → Option Int
  | interaction now => some now
  | _ => none

/-- The time of a heartbeat, which goes out at every tick that is let through. -/
def heartbeat? : Entry → Option Int
  | tick now false => some now
  | _ => none

end Entry

/-- What was seen of a detector, latest first. -/
abbrev History := List Entry

namespace History

/-- The clock does not go back. -/
def Ordered (past : History) : Prop := past.Pairwise fun later earlier => earlier.time ≤ later.time

def lastInteraction (past : History) : Option Int := past.findSome? Entry.interaction?

def lastHeartbeat (past : History) : Option Int := past.findSome? Entry.heartbeat?

/-- The time from the last sign of the runtime to the last heartbeat reaches the timeout. -/
def stale (c : PauseSettings) (past : History) : Bool :=
  match lastHeartbeat past, lastInteraction past with
  | some heartbeat, some interaction => decide (c.pauseTimeoutMs ≤ elapsed interaction heartbeat)
  | _, _ => false

/-- Some check was made during the pause that lasts now. -/
def noticed (c : PauseSettings) : History → Bool
  | [] => false
  | e :: past => stale c (e :: past) && (e.isCheck && stale c past || noticed c past)

/-- How many ticks were held back since the last heartbeat, apart from one that noticed the pause. -/
def suppressed (c : PauseSettings) : History → Nat
  | [] => 0
  | .interaction _ :: past => suppressed c past
  | .call _ _ :: past => suppressed c past
  | .tick _ false :: _ => 0
  | .tick _ true :: past => if noticed c past then suppressed c past + 1 else suppressed c past

/-- The last check that was made found the runtime paused. -/
def found (c : PauseSettings) : History → Bool
  | [] => false
  | e :: past => if e.isCheck then stale c past else found c past

variable {c : PauseSettings} {past : History}

@[simp] theorem lastInteraction_interaction (now : Int) :
    lastInteraction (.interaction now :: past) = some now := rfl

@[simp] theorem lastHeartbeat_interaction (now : Int) :
    lastHeartbeat (.interaction now :: past) = lastHeartbeat past := rfl

theorem suppressed_le_length (c : PauseSettings) (past : History) :
    suppressed c past ≤ past.length := by
  induction past with
  | nil => exact Nat.le_refl 0
  | cons e past ih =>
    rw [List.length_cons]
    cases e with
    | interaction now => exact Nat.le_succ_of_le ih
    | call now held => exact Nat.le_succ_of_le ih
    | tick now held =>
      cases held with
      | false => exact Nat.zero_le _
      | true =>
        rw [suppressed]
        split <;> omega

/-- A check was made in this pause: the runtime counted as paused when it was made, and ever since. -/
theorem noticed_iff : noticed c past = true ↔
    ∃ later check before, past = later ++ check :: before ∧ check.isCheck = true ∧
      stale c before = true ∧
      ∀ recent since, later = recent ++ since → stale c (since ++ check :: before) = true := by
  induction past with
  | nil => simp [noticed]
  | cons e past ih =>
    rw [noticed, Bool.and_eq_true, Bool.or_eq_true, Bool.and_eq_true, ih]
    constructor
    · rintro ⟨now, ⟨check, before⟩ | ⟨later, check, before, rfl, made, found, lasted⟩⟩
      · refine ⟨[], e, past, rfl, check, before, fun recent since split => ?_⟩
        obtain ⟨-, rfl⟩ := List.append_eq_nil_iff.mp split.symm
        exact now
      · refine ⟨e :: later, check, before, rfl, made, found, fun recent since split => ?_⟩
        cases recent with
        | nil =>
          obtain rfl : e :: later = since := split
          exact now
        | cons e' recent =>
          obtain ⟨-, split⟩ := List.cons.inj split
          exact lasted recent since split
    · rintro ⟨later, check, before, split, made, found, lasted⟩
      cases later with
      | nil =>
        obtain ⟨rfl, rfl⟩ := List.cons.inj split
        exact ⟨lasted [] [] rfl, .inl ⟨made, found⟩⟩
      | cons e' later =>
        obtain ⟨rfl, rfl⟩ := List.cons.inj split
        refine ⟨lasted [] _ rfl, .inr ⟨later, check, before, rfl, made, found, ?_⟩⟩
        intro recent since split
        exact lasted (e :: recent) since (by rw [split]; rfl)

theorem stale_of_noticed (h : noticed c past = true) : stale c past = true := by
  cases past with
  | nil => cases h
  | cons e past =>
    rw [noticed, Bool.and_eq_true] at h
    exact h.1

theorem stale_iff : stale c past = true ↔ ∃ heartbeat interaction,
    lastHeartbeat past = some heartbeat ∧ lastInteraction past = some interaction ∧
      c.pauseTimeoutMs ≤ elapsed interaction heartbeat := by
  unfold stale
  split
  · rename_i heartbeat interaction beaten spoke
    simp [beaten, spoke]
  · rename_i missing
    constructor
    · intro h
      cases h
    · rintro ⟨heartbeat, interaction, beaten, spoke, -⟩
      exact (missing heartbeat interaction beaten spoke).elim

/-- The runtime cannot be found paused before it was heard from. -/
theorem lastInteraction_of_found (h : found c past = true) : lastInteraction past ≠ none := by
  induction past with
  | nil => cases h
  | cons e past ih =>
    have of_stale (stale : stale c past = true) : lastInteraction past ≠ none := by
      obtain ⟨_, interaction, -, spoke, -⟩ := stale_iff.mp stale
      rw [spoke]
      exact Option.some_ne_none interaction
    cases e with
    | interaction now => exact Option.some_ne_none now
    | call now held => exact of_stale h
    | tick now held => exact of_stale h

theorem time_of_lastHeartbeat {beat : Int} (h : lastHeartbeat past = some beat) :
    ∃ e ∈ past, e.time = beat := by
  obtain ⟨e, mem, beaten⟩ := List.exists_of_findSome?_eq_some h
  refine ⟨e, mem, ?_⟩
  cases e with
  | interaction now => cases beaten
  | call now held => cases beaten
  | tick now held =>
    cases held with
    | true => cases beaten
    | false => exact Option.some.inj beaten

/-- A runtime that was just heard from counts as paused only if no lag is asked for. It then counted
as paused before, unless this is the first that was heard of it. -/
theorem stale_interaction {now : Int} (late : ∀ e ∈ past, e.time ≤ now)
    (h : stale c (.interaction now :: past) = true) :
    stale c past = true ∨ lastInteraction past = none := by
  obtain ⟨beat, interaction, beaten, spoke, lag⟩ := stale_iff.mp h
  rw [lastHeartbeat_interaction] at beaten
  rw [lastInteraction_interaction] at spoke
  obtain rfl := Option.some.inj spoke
  obtain ⟨e, mem, rfl⟩ := time_of_lastHeartbeat beaten
  have before := late e mem
  cases earlier : lastInteraction past with
  | none => exact .inr rfl
  | some t =>
    refine .inl (stale_iff.mpr ⟨e.time, t, beaten, earlier, ?_⟩)
    unfold elapsed at lag ⊢
    omega

/-- While a pause lasts, the last check has found it exactly if one has noticed it. A mark from an
earlier pause cannot be left: that pause ended with a heartbeat, at a tick that was checked. -/
theorem found_eq_noticed (ordered : past.Ordered) (h : stale c past = true) :
    found c past = noticed c past := by
  induction past with
  | nil => rfl
  | cons e past ih =>
    obtain ⟨late, earlier⟩ := List.pairwise_cons.mp ordered
    have checked : (stale c past || noticed c past) = stale c past := by
      cases seen : noticed c past with
      | false => exact Bool.or_false _
      | true => rw [stale_of_noticed seen, Bool.or_true]
    rw [noticed, h, Bool.true_and]
    cases e with
    | interaction now =>
      rw [found, Entry.isCheck, Bool.false_and, Bool.false_or, if_neg Bool.false_ne_true]
      rcases stale_interaction late h with before | nothing
      · exact ih earlier before
      · have unfound : found c past = false :=
          eq_false_of_ne_true fun found => lastInteraction_of_found found nothing
        have unnoticed : noticed c past = false := by
          refine eq_false_of_ne_true fun noticed => ?_
          obtain ⟨_, _, -, spoke, -⟩ := stale_iff.mp (stale_of_noticed noticed)
          rw [nothing] at spoke
          cases spoke
        rw [unfound, unnoticed]
    | call now held => simpa [found, Entry.isCheck] using checked.symm
    | tick now held => simpa [found, Entry.isCheck] using checked.symm

end History

/-! ## A detector and its history -/

/-- The detector after an attempt to send a heartbeat, which goes out unless it is held back. -/
def Detector.attempt (now : Int) (d : Detector) : Detector :=
  match d.checkTick now with
  | (true, d, _) => d
  | (false, d, _) => d.heartbeat now

/-- What is seen of a detector as a session uses it. -/
inductive Watched (c : PauseSettings) : History → Detector → Prop where
  | start : Watched c [] (.initial c)
  | interaction {past : History} {d : Detector} (watched : Watched c past d) (now : Int) :
      Watched c (.interaction now :: past) (d.interaction now)
  | call {past : History} {d : Detector} (watched : Watched c past d) (now : Int) :
      Watched c (.call now d.checkCall.1 :: past) d.checkCall.2.1
  | tick {past : History} {d : Detector} (watched : Watched c past d) (now : Int) :
      Watched c (.tick now (d.checkTick now).1 :: past) (d.attempt now)

variable {c : PauseSettings} {past : History} {d : Detector}

/-- The detector knows of its history what it needs. -/
structure Tracks (c : PauseSettings) (past : History) (d : Detector) : Prop where
  settings : d.settings = c
  lastInteraction : d.lastInteraction = past.lastInteraction
  lastHeartbeat : d.lastHeartbeat = past.lastHeartbeat
  paused : d.paused = past.found c
  skipped : d.skipped = UInt32.ofNat (past.suppressed c)

namespace Tracks

theorem isStale (tracks : Tracks c past d) : d.isStale = past.stale c := by
  unfold Detector.isStale Detector.lag History.stale
  rw [tracks.lastInteraction, tracks.lastHeartbeat, tracks.settings]
  split <;> rename_i lag <;> split at lag <;> simp_all

theorem interaction (tracks : Tracks c past d) (now : Int) :
    Tracks c (.interaction now :: past) (d.interaction now) where
  settings := tracks.settings
  lastInteraction := rfl
  lastHeartbeat := tracks.lastHeartbeat
  paused := tracks.paused
  skipped := tracks.skipped

theorem call (on : c.enabled = true) (tracks : Tracks c past d) (now : Int) :
    Tracks c (.call now d.checkCall.1 :: past) d.checkCall.2.1 := by
  rw [Detector.checkCall_on (by rw [tracks.settings, on])]
  exact {
    settings := tracks.settings
    lastInteraction := tracks.lastInteraction
    lastHeartbeat := tracks.lastHeartbeat
    paused := tracks.isStale
    skipped := tracks.skipped }

/-- A tick is counted exactly if the pause was noticed before. -/
theorem tick (on : c.enabled = true) (tracks : Tracks c past d) (ordered : past.Ordered)
    (now : Int) : Tracks c (.tick now (d.checkTick now).1 :: past) (d.attempt now) := by
  have isStale := tracks.isStale
  have check := Detector.tickCheck now d
  unfold Detector.attempt
  generalize d.checkTick now = r at check ⊢
  cases check with
  | off off => rw [tracks.settings, on] at off; cases off
  | keepalive _ stale known due =>
    exact {
      settings := tracks.settings
      lastInteraction := tracks.lastInteraction
      lastHeartbeat := rfl
      paused := by rw [isStale] at stale; exact known.trans stale.symm
      skipped := rfl }
  | counted _ stale known early =>
    rw [isStale] at stale
    have noticed : past.noticed c = true := by
      rw [← History.found_eq_noticed ordered stale, ← tracks.paused, known]
    exact {
      settings := tracks.settings
      lastInteraction := tracks.lastInteraction
      lastHeartbeat := tracks.lastHeartbeat
      paused := known.trans stale.symm
      skipped := by
        rw [History.suppressed, if_pos noticed, UInt32.ofNat_add, ← tracks.skipped]
        rfl }
  | noticed _ stale new =>
    rw [isStale] at stale
    have unnoticed : past.noticed c = false := by
      rw [← History.found_eq_noticed ordered stale, ← tracks.paused, new]
    exact {
      settings := tracks.settings
      lastInteraction := tracks.lastInteraction
      lastHeartbeat := tracks.lastHeartbeat
      paused := stale.symm
      skipped := by
        rw [History.suppressed, unnoticed, if_neg Bool.false_ne_true]
        exact tracks.skipped }
  | awake _ fresh =>
    exact {
      settings := tracks.settings
      lastInteraction := tracks.lastInteraction
      lastHeartbeat := rfl
      paused := by rw [isStale] at fresh; exact fresh.symm
      skipped := rfl }

end Tracks

theorem Watched.tracks (on : c.enabled = true) (watched : Watched c past d)
    (ordered : past.Ordered) : Tracks c past d := by
  induction watched with
  | start => exact ⟨rfl, rfl, rfl, rfl, rfl⟩
  | interaction watched now ih => exact (ih ordered.of_cons).interaction now
  | call watched now ih => exact (ih ordered.of_cons).call on now
  | tick watched now ih => exact (ih ordered.of_cons).tick on ordered.of_cons now

theorem Tracks.toNat_skipped (tracks : Tracks c past d) (few : past.length < UInt32.size) :
    d.skipped.toNat = past.suppressed c := by
  have bound := past.suppressed_le_length c
  rw [tracks.skipped]
  exact UInt32.toNat_ofNat_of_lt' (by omega)

/-- A keepalive is due: the pause was noticed, the interval since the last heartbeat has passed, and
enough ticks were held back since. -/
structure History.Due (c : PauseSettings) (past : History) (now : Int) : Prop where
  noticed : past.noticed c = true
  passed : ∃ beat, past.lastHeartbeat = some beat ∧ c.keepaliveIntervalMs ≤ now - beat
  enough : c.keepaliveMinSkipped.toNat < past.suppressed c

theorem Tracks.keepaliveDue {now : Int} (tracks : Tracks c past d) (few : past.length < UInt32.size)
    (late : ∀ e ∈ past, e.time ≤ now) (noticed : past.noticed c = true) :
    d.keepaliveDue now = true ↔ past.Due c now := by
  obtain ⟨beat, _, beaten, -⟩ := History.stale_iff.mp (History.stale_of_noticed noticed)
  obtain ⟨e, mem, time⟩ := History.time_of_lastHeartbeat beaten
  have before := late e mem
  have since : d.sinceHeartbeat now = now - beat := by
    unfold Detector.sinceHeartbeat
    rw [tracks.lastHeartbeat, beaten]
    dsimp only
    unfold elapsed
    omega
  rw [Detector.keepaliveDue, Bool.and_eq_true, decide_eq_true_eq, decide_eq_true_eq,
    UInt32.lt_iff_toNat_lt, since, tracks.toNat_skipped few, tracks.settings]
  constructor
  · rintro ⟨passed, enough⟩
    exact ⟨noticed, ⟨beat, beaten, passed⟩, enough⟩
  · rintro ⟨-, ⟨beat', beaten', passed⟩, enough⟩
    rw [beaten] at beaten'
    obtain rfl := Option.some.inj beaten'
    exact ⟨passed, enough⟩

/-- While a detector is on and its clock does not go back, a tick is let through exactly if the
runtime does not count as paused, or a keepalive is due. The count is that of the ticks held back
since the last heartbeat, and no call changes it. A call is held back exactly while the runtime
counts as paused, whatever keepalives go out. -/
theorem keepalives_rationed {now : Int} (on : c.enabled = true) (watched : Watched c past d)
    (few : past.length < UInt32.size) (ordered : past.Ordered) (late : ∀ e ∈ past, e.time ≤ now) :
    ((d.checkTick now).1 = false ↔ past.stale c = false ∨ past.Due c now) ∧
      d.skipped.toNat = past.suppressed c ∧
      d.checkCall.1 = past.stale c ∧ d.checkCall.2.1.skipped = d.skipped := by
  have tracks := watched.tracks on ordered
  have isStale := tracks.isStale
  refine ⟨?_, tracks.toNat_skipped few, ?_, ?_⟩
  · have known (stale : past.stale c = true) : d.paused = past.noticed c :=
      tracks.paused.trans (History.found_eq_noticed ordered stale)
    have check := Detector.tickCheck now d
    generalize d.checkTick now = r at check ⊢
    cases check with
    | off off => rw [tracks.settings, on] at off; cases off
    | keepalive _ stale paused due =>
      have noticed := (known (isStale ▸ stale)).symm.trans paused
      exact iff_of_true rfl (.inr ((tracks.keepaliveDue few late noticed).mp due))
    | counted _ stale paused early =>
      rw [isStale] at stale
      refine iff_of_false Bool.noConfusion ?_
      rintro (fresh | due)
      · rw [stale] at fresh
        cases fresh
      · rw [(tracks.keepaliveDue few late due.noticed).mpr due] at early
        cases early
    | noticed _ stale new =>
      rw [isStale] at stale
      refine iff_of_false Bool.noConfusion ?_
      rintro (fresh | due)
      · rw [stale] at fresh
        cases fresh
      · rw [known stale, due.noticed] at new
        cases new
    | awake _ fresh => exact iff_of_true rfl (.inl (isStale ▸ fresh))
  · rw [Detector.checkCall_on (by rw [tracks.settings, on])]
    exact isStale
  · obtain ⟨_, aside⟩ := d.checkCall_aside
    rw [aside]

/-- Settings under which two heartbeats must be left out. -/
def sparing : PauseSettings := { keepaliveMinSkipped := 1 }

/-- A runtime that was silent for six seconds when the first heartbeat went out. The next tick notices
the pause; two more are counted. -/
def nap : History :=
  [.tick 8000 true, .call 7500 true, .tick 7000 true, .tick 6500 true, .tick 6000 false,
    .interaction 0]

/-- Seven seconds after that heartbeat the runtime gets another, and calls to it are still held
back. -/
theorem nap_rationed :
    ∃ d, Watched sparing nap d ∧ nap.Ordered ∧ nap.Due sparing 13000 ∧
      d.skipped.toNat = 2 ∧ (d.checkTick 13000).1 = false ∧ d.checkCall.1 = true := by
  obtain ⟨past, d, watched, rfl⟩ : ∃ past d, Watched sparing past d ∧ past = nap :=
    ⟨_, _, Watched.start.interaction 0 |>.tick 6000 |>.tick 6500 |>.tick 7000 |>.call 7500
      |>.tick 8000, by decide⟩
  have ordered : nap.Ordered := by
    unfold nap History.Ordered
    decide
  have due : nap.Due sparing 13000 := ⟨by decide, ⟨6000, by decide, by decide⟩, by decide⟩
  have late : ∀ e ∈ nap, e.time ≤ 13000 := by decide
  obtain ⟨through, count, held, -⟩ :=
    keepalives_rationed (by decide) watched (by decide) ordered late
  exact ⟨d, watched, ordered, due, count.trans (by decide), through.mpr (.inr due),
    held.trans (by decide)⟩

end HostLink.Pause
