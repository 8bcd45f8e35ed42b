import HostLink.Proofs.Pause.Run

/-!
# HostLink.Proofs.Pause.Count

How far a detector can count. Ticks that are held back are counted in 32 bits, and the count starts
anew with a keepalive or at the end of a pause. Where a keepalive is due as soon as enough ticks are
counted, the count stops there (`skipped_le_min`). Where one can be kept waiting for ever, so can the
count, and a pause that is long enough takes it past its width (`count_fits_iff`).

* `counts_iff`  — the one outcome of a check in which the count goes up.
* `after_ticks` — what any number of such ticks add up to.
-/

namespace HostLink.Pause

def Moment.isTick : Moment → Bool
  | .tick _ => true
  | _ => false

namespace Detector

variable {c : PauseSettings} {d : Detector} {now : Int}

/-- A tick now is held back, and the count changes. -/
def Counts (now : Int) (d : Detector) : Prop :=
  (d.checkTick now).1 = true ∧ (d.checkTick now).2.1.skipped ≠ d.skipped

theorem checkTick_counted (on : d.settings.enabled = true) (stale : d.isStale = true)
    (known : d.paused = true) (early : d.keepaliveDue now = false) :
    d.checkTick now = (true, { d with skipped := d.skipped + 1 }, []) := by
  simp [checkTick, on, stale, known, early]

theorem add_one_ne (n : UInt32) : n + 1 ≠ n := by
  intro same
  have := congrArg UInt32.toNat same
  simp only [UInt32.toNat_add, UInt32.toNat_one] at this
  have := n.toNat_lt
  omega

theorem counts_iff : Counts now d ↔ d.settings.enabled = true ∧ d.isStale = true ∧
    d.paused = true ∧ d.keepaliveDue now = false := by
  constructor
  · rintro ⟨held, changed⟩
    have check := tickCheck now d
    generalize d.checkTick now = r at check held changed
    cases check with
    | off => cases held
    | keepalive => cases held
    | counted on stale known early => exact ⟨on, stale, known, early⟩
    | noticed => exact absurd rfl changed
    | awake => cases held
  · rintro ⟨on, stale, known, early⟩
    rw [Counts, checkTick_counted on stale known early]
    exact ⟨rfl, add_one_ne d.skipped⟩

/-! ## Bounds -/

theorem skipped_meet (m : Moment) (d : Detector) :
    (d.meet m).skipped.toNat ≤ d.skipped.toNat + if m.isTick then 1 else 0 := by
  cases m with
  | interaction now => exact Nat.le_refl _
  | heartbeat now => exact Nat.le_refl _
  | call now =>
    obtain ⟨_, aside⟩ := d.checkCall_aside
    rw [meet, aside]
    exact Nat.le_refl _
  | tick now =>
    rw [meet]
    have check := tickCheck now d
    generalize d.checkTick now = r at check ⊢
    cases check with
    | off => exact Nat.le_add_right _ _
    | keepalive => exact Nat.zero_le _
    | counted =>
      simp only [UInt32.toNat_add, UInt32.toNat_one, Moment.isTick, if_true]
      exact Nat.mod_le _ _
    | noticed => exact Nat.le_add_right _ _
    | awake => exact Nat.zero_le _

/-- The count is at most the number of ticks. -/
theorem skipped_after (ms : List Moment) (d : Detector) :
    (d.after ms).skipped.toNat ≤ d.skipped.toNat + ms.countP Moment.isTick := by
  induction ms generalizing d with
  | nil => exact Nat.le_refl _
  | cons m ms ih =>
    have first := skipped_meet m d
    have others := ih (d.meet m)
    rw [after_cons, List.countP_cons]
    omega

/-- Without an interval a keepalive is due as soon as enough ticks were held back. -/
theorem keepaliveDue_of_instant (instant : d.settings.keepaliveInterval = 0) (now : Int) :
    d.keepaliveDue now = decide (d.settings.keepaliveMinSkipped < d.skipped) := by
  have passed : d.settings.keepaliveIntervalMs ≤ d.sinceHeartbeat now := by
    unfold PauseSettings.keepaliveIntervalMs sinceHeartbeat
    rw [instant]
    split
    · exact Int.le_max_right _ _
    · exact Int.le_refl _
  simp [keepaliveDue, passed]

theorem skipped_le_min (instant : c.keepaliveInterval = 0) (reached : Reached c d) :
    d.skipped.toNat ≤ c.keepaliveMinSkipped.toNat + 1 := by
  obtain ⟨ms, rfl⟩ := reached
  have kept : ((initial c).after ms).settings = c ∧
      ((initial c).after ms).skipped.toNat ≤ c.keepaliveMinSkipped.toNat + 1 := by
    refine after_keeps (I := fun d => d.settings = c ∧
      d.skipped.toNat ≤ c.keepaliveMinSkipped.toNat + 1) (P := fun _ => True) ?_
      (fun _ _ => trivial) ⟨rfl, Nat.zero_le _⟩
    rintro m d - ⟨rfl, few⟩
    refine ⟨settings_meet m d, ?_⟩
    cases m with
    | interaction now => exact few
    | heartbeat now => exact few
    | call now =>
      obtain ⟨_, aside⟩ := d.checkCall_aside
      rw [meet, aside]
      exact few
    | tick now =>
      rw [meet]
      have check := tickCheck now d
      generalize d.checkTick now = r at check ⊢
      cases check with
      | off => exact few
      | keepalive => exact Nat.zero_le _
      | counted _ _ _ early =>
        rw [keepaliveDue_of_instant instant, decide_eq_false_iff_not, UInt32.not_lt,
          UInt32.le_iff_toNat_le] at early
        simp only [UInt32.toNat_add, UInt32.toNat_one]
        omega
      | noticed => exact few
      | awake => exact Nat.zero_le _
  exact kept.2

/-! ## A long pause -/

/-- A runtime that was heard from once, and a heartbeat so much later that it is presumed paused;
`n` ticks were counted since that was noted. -/
def stopped (c : PauseSettings) (n : UInt32) : Detector :=
  ⟨c, some 0, some c.pauseTimeoutMs, n, true⟩

theorem isStale_of_timeout (c : PauseSettings) (n : UInt32) (paused : Bool) :
    isStale ⟨c, some 0, some c.pauseTimeoutMs, n, paused⟩ = true := by
  have lag : elapsed 0 c.pauseTimeoutMs = c.pauseTimeoutMs := by
    unfold elapsed PauseSettings.pauseTimeoutMs
    omega
  simp [isStale, Detector.lag, lag]

theorem isStale_stopped (c : PauseSettings) (n : UInt32) : (stopped c n).isStale = true :=
  isStale_of_timeout c n true

/-- Ticks at none of which a keepalive is due are all counted. -/
theorem after_ticks {times : List Int} (on : c.enabled = true) (n : UInt32)
    (early : ∀ now ∈ times, ∀ n, (stopped c n).keepaliveDue now = false) :
    (stopped c n).after (times.map .tick) = stopped c (n + UInt32.ofNat times.length) := by
  induction times generalizing n with
  | nil => simp
  | cons now times ih =>
    obtain ⟨first, others⟩ := List.forall_mem_cons.mp early
    have met : (stopped c n).meet (.tick now) = stopped c (n + 1) := by
      rw [meet, checkTick_counted on (isStale_stopped c n) rfl (first n)]
      rfl
    rw [List.map_cons, after_cons, met, ih (n + 1) others, List.length_cons, UInt32.ofNat_add,
      UInt32.add_assoc, UInt32.add_comm 1]
    rfl

/-- How such a pause comes about: the first tick is let through, as no heartbeat went out before, and
the second notes the pause. -/
def stalled (c : PauseSettings) (times : List Int) : List Moment :=
  .interaction 0 :: .tick c.pauseTimeoutMs :: .heartbeat c.pauseTimeoutMs ::
    .tick c.pauseTimeoutMs :: times.map .tick

theorem after_stalled {times : List Int} (on : c.enabled = true)
    (early : ∀ now ∈ times, ∀ n, (stopped c n).keepaliveDue now = false) :
    (initial c).after (stalled c times) = stopped c (UInt32.ofNat times.length) := by
  have first : (initial c).after [.interaction 0, .tick c.pauseTimeoutMs,
      .heartbeat c.pauseTimeoutMs] = ⟨c, some 0, some c.pauseTimeoutMs, 0, false⟩ := by
    simp [meet, checkTick, on, initial, interaction, heartbeat, isStale, Detector.lag]
  have noted : meet (.tick c.pauseTimeoutMs) ⟨c, some 0, some c.pauseTimeoutMs, 0, false⟩ =
      stopped c 0 := by
    simp [meet, checkTick, on, isStale_of_timeout, stopped]
  have split : stalled c times = [.interaction 0, .tick c.pauseTimeoutMs,
      .heartbeat c.pauseTimeoutMs] ++ .tick c.pauseTimeoutMs :: times.map .tick := rfl
  rw [split, after_append, first, after_cons, noted, after_ticks on 0 early, UInt32.zero_add]

/-- A pause of which 2^32 - 1 ticks were counted overflows the count with the next. -/
theorem exists_overflow {times : List Int} (on : c.enabled = true)
    (early : ∀ now ∈ times, ∀ n, (stopped c n).keepaliveDue now = false)
    (long : times.length + 1 = UInt32.size) (last : ∀ n, (stopped c n).keepaliveDue now = false) :
    Counts now ((initial c).after (stalled c times)) ∧
      ((initial c).after (stalled c times)).skipped.toNat + 1 = UInt32.size := by
  rw [after_stalled on early]
  refine ⟨counts_iff.mpr ⟨on, isStale_stopped c _, rfl, last _⟩, ?_⟩
  have counted : (stopped c (UInt32.ofNat times.length)).skipped.toNat = times.length :=
    UInt32.toNat_ofNat_of_lt' (by omega)
  omega

/-- No keepalive is ever due if the count cannot pass its least value. -/
theorem keepaliveDue_of_most (most : UInt32.size ≤ c.keepaliveMinSkipped.toNat + 1) (now : Int)
    (n : UInt32) : (stopped c n).keepaliveDue now = false := by
  have unreached : ¬ c.keepaliveMinSkipped < n := by
    rw [UInt32.lt_iff_toNat_lt]
    have := n.toNat_lt_size
    omega
  simp [keepaliveDue, stopped, unreached]

/-- None is due at the time of the last heartbeat if there is to be an interval between the two. -/
theorem keepaliveDue_of_interval (interval : c.keepaliveInterval ≠ 0) (n : UInt32) :
    (stopped c n).keepaliveDue c.pauseTimeoutMs = false := by
  have positive : c.keepaliveInterval.toNat ≠ 0 := fun zero =>
    interval (UInt64.toNat_inj.mp zero)
  have early : ¬ c.keepaliveIntervalMs ≤ elapsed c.pauseTimeoutMs c.pauseTimeoutMs := by
    unfold PauseSettings.keepaliveIntervalMs elapsed
    omega
  simp [keepaliveDue, sinceHeartbeat, stopped, early]

/-- The count stays within its width in every life exactly if the detector is off, or a keepalive is
due without an interval and after a number of ticks that the count can pass. In any case it shows no
more ticks than there were. -/
theorem count_fits_iff (c : PauseSettings) :
    ((∀ d now, Reached c d → Counts now d → d.skipped.toNat + 1 < UInt32.size) ↔
      c.enabled = false ∨
        c.keepaliveInterval = 0 ∧ c.keepaliveMinSkipped.toNat + 1 < UInt32.size) ∧
    ∀ ms, ((initial c).after ms).skipped.toNat ≤ ms.countP Moment.isTick := by
  refine ⟨⟨fun fits => ?_, ?_⟩, fun ms => ?_⟩
  · cases on : c.enabled with
    | false => exact .inl rfl
    | true =>
      refine .inr (Classical.byContradiction fun unbounded => ?_)
      have early (n : UInt32) : (stopped c n).keepaliveDue c.pauseTimeoutMs = false := by
        by_cases interval : c.keepaliveInterval = 0
        · refine keepaliveDue_of_most (Nat.le_of_not_lt fun few => ?_) _ n
          exact unbounded ⟨interval, few⟩
        · exact keepaliveDue_of_interval interval n
      obtain ⟨counts, full⟩ := @exists_overflow c c.pauseTimeoutMs
        (List.replicate (UInt32.size - 1) c.pauseTimeoutMs) on
        (fun now mem => by rw [List.eq_of_mem_replicate mem]; exact early)
        (by rw [List.length_replicate]; rfl) early
      exact absurd (fits _ _ ⟨_, rfl⟩ counts) (by rw [full]; exact Nat.lt_irrefl _)
  · rintro (off | ⟨instant, few⟩) d now reached counts
    · obtain ⟨on, -⟩ := counts_iff.mp counts
      rw [reached.settings, off] at on
      cases on
    · obtain ⟨-, -, -, early⟩ := counts_iff.mp counts
      rw [keepaliveDue_of_instant (by rw [reached.settings, instant]), decide_eq_false_iff_not,
        UInt32.not_lt, UInt32.le_iff_toNat_le, reached.settings] at early
      omega
  · exact Nat.le_trans (skipped_after ms (initial c)) (by simp [initial])

/-- Settings that ask for more heartbeats to be left out than can be counted. -/
def unforgiving : PauseSettings := { keepaliveMinSkipped := 4294967295 }

/-- A tick a millisecond. -/
def vigil (n : Nat) : List Int := (List.range n).map fun k : Nat => (5001 + k : Int)

/-- After seven weeks of it the count wraps: the tick is held back like all before it, and a
keepalive is as far away as at first. -/
theorem exists_wrapped :
    ∃ d : Detector,
      (initial unforgiving).after (stalled unforgiving (vigil (UInt32.size - 1))) = d ∧
      Counts 4294972296 d ∧ d.skipped.toNat + 1 = UInt32.size ∧
      (d.checkTick 4294972296).2.1.skipped = 0 := by
  have never (now : Int) (n : UInt32) : (stopped unforgiving n).keepaliveDue now = false :=
    keepaliveDue_of_most (by decide) now n
  have long (n : Nat) : (vigil n).length = n := by rw [vigil, List.length_map, List.length_range]
  obtain ⟨counts, full⟩ := @exists_overflow unforgiving 4294972296 (vigil (UInt32.size - 1)) rfl
    (fun now _ => never now) (by rw [long]; rfl) (never 4294972296)
  refine ⟨_, rfl, counts, full, ?_⟩
  obtain ⟨on, stale, known, early⟩ := counts_iff.mp counts
  rw [checkTick_counted on stale known early, ← UInt32.toNat_inj]
  simp only [UInt32.toNat_add, UInt32.toNat_one, full]
  rfl

end Detector

end HostLink.Pause
