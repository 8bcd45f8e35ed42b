import HostLink.Pause

/-!
# HostLink.Proofs.Pause.Run

The life of a pause detector. It hears of the runtime, a heartbeat goes out, traffic is checked at a
call or at a tick, at any times and in any order (`Moment`).

* `TickCheck`  — all that a check at a tick can come to.
* `after_keeps` — what every moment keeps is kept by all of them. The settings are
  (`settings_after`), and a detector that is off never notes a pause (`paused_of_off`).
-/

namespace HostLink.Pause

/-- Something that is done with a detector. -/
inductive Moment where
  | interaction (now : Int)
  | heartbeat (now : Int)
  | call (now : Int)
  | tick (now : Int)
  deriving DecidableEq, Repr

namespace Detector

variable {d : Detector}

/-! ## Checks -/

/-- All that a check at a tick can come to. -/
inductive TickCheck (now : Int) (d : Detector) : Bool × Detector × List Notice → Prop where
  | off (off : d.settings.enabled = false) : TickCheck now d (false, d, [])
  | keepalive (on : d.settings.enabled = true) (stale : d.isStale = true) (known : d.paused = true)
      (due : d.keepaliveDue now = true) :
      TickCheck now d (false, { d with skipped := 0 }, [.keepalive])
  | counted (on : d.settings.enabled = true) (stale : d.isStale = true) (known : d.paused = true)
      (early : d.keepaliveDue now = false) :
      TickCheck now d (true, { d with skipped := d.skipped + 1 }, [])
  | noticed (on : d.settings.enabled = true) (stale : d.isStale = true) (new : d.paused = false) :
      TickCheck now d (true, { d with paused := true }, [.pauseDetected])
  | awake (on : d.settings.enabled = true) (fresh : d.isStale = false) :
      TickCheck now d (false, { d with skipped := 0, paused := false }, d.edge)

theorem tickCheck (now : Int) (d : Detector) : TickCheck now d (d.checkTick now) := by
  unfold checkTick
  split
  · rename_i off
    exact .off (by simpa using off)
  · rename_i on
    have on : d.settings.enabled = true := by simpa using on
    split
    · rename_i known
      obtain ⟨stale, known⟩ := Bool.and_eq_true_iff.mp known
      split
      · rename_i due
        exact .keepalive on stale known due
      · rename_i early
        exact .counted on stale known (by simpa using early)
    · rename_i unknown
      split
      · rename_i stale
        exact .noticed on stale (by simpa [stale] using unknown)
      · rename_i fresh
        exact .awake on (by simpa using fresh)

theorem checkCall_off (off : d.settings.enabled = false) : d.checkCall = (false, d, []) := by
  simp [checkCall, off]

theorem checkTick_off (off : d.settings.enabled = false) (now : Int) :
    d.checkTick now = (false, d, []) := by
  simp [checkTick, off]

theorem checkCall_on (on : d.settings.enabled = true) :
    d.checkCall = (d.isStale, { d with paused := d.isStale }, d.edge) := by
  simp [checkCall, on]

/-- A check at a call touches nothing but the mark of a pause. -/
theorem checkCall_aside (d : Detector) :
    ∃ paused, d.checkCall.2.1 = { d with paused := paused } := by
  unfold checkCall
  split
  · exact ⟨d.paused, rfl⟩
  · exact ⟨d.isStale, rfl⟩

/-- A check at a tick touches the count as well. -/
theorem checkTick_aside (now : Int) (d : Detector) :
    ∃ skipped paused, (d.checkTick now).2.1 = { d with skipped := skipped, paused := paused } := by
  have check := tickCheck now d
  generalize d.checkTick now = r at check ⊢
  cases check <;> exact ⟨_, _, rfl⟩

/-! ## Moments -/

/-- The detector after something was done with it. -/
def meet (m : Moment) (d : Detector) : Detector :=
  match m with
  | .interaction now => d.interaction now
  | .heartbeat now => d.heartbeat now
  | .call _ => d.checkCall.2.1
  | .tick now => (d.checkTick now).2.1

/-- The detector after a number of moments. -/
def after (ms : List Moment) (d : Detector) : Detector := ms.foldl (fun d m => d.meet m) d

@[simp] theorem after_nil (d : Detector) : d.after [] = d := rfl

@[simp] theorem after_cons (m : Moment) (ms : List Moment) (d : Detector) :
    d.after (m :: ms) = (d.meet m).after ms := rfl

theorem after_append (ms ns : List Moment) (d : Detector) :
    d.after (ms ++ ns) = (d.after ms).after ns := List.foldl_append

/-- The detector is one at some moment of a life with these settings. -/
def Reached (c : PauseSettings) (d : Detector) : Prop := ∃ ms, (initial c).after ms = d

/-- What every moment keeps is kept by all of them. -/
theorem after_keeps {I : Detector → Prop} {P : Moment → Prop}
    (step : ∀ m d, P m → I d → I (d.meet m)) {ms : List Moment} (all : ∀ m ∈ ms, P m) (h : I d) :
    I (d.after ms) := by
  induction ms generalizing d with
  | nil => exact h
  | cons m ms ih =>
    obtain ⟨first, others⟩ := List.forall_mem_cons.mp all
    exact ih others (step m d first h)

theorem settings_meet (m : Moment) (d : Detector) : (d.meet m).settings = d.settings := by
  cases m with
  | interaction now => rfl
  | heartbeat now => rfl
  | call now =>
    obtain ⟨_, aside⟩ := d.checkCall_aside
    rw [meet, aside]
  | tick now =>
    obtain ⟨_, _, aside⟩ := d.checkTick_aside now
    rw [meet, aside]

theorem settings_after (ms : List Moment) (d : Detector) : (d.after ms).settings = d.settings :=
  after_keeps (I := fun e => e.settings = d.settings) (P := fun _ => True)
    (fun m e _ same => (settings_meet m e).trans same) (fun _ _ => trivial) rfl

theorem Reached.settings {c : PauseSettings} (reached : Reached c d) : d.settings = c := by
  obtain ⟨ms, rfl⟩ := reached
  exact settings_after ms (initial c)

/-- A detector that is off notes no pause. -/
theorem meet_of_off (off : d.settings.enabled = false) (m : Moment) :
    (d.meet m).paused = d.paused := by
  cases m with
  | interaction now => rfl
  | heartbeat now => rfl
  | call now => rw [meet, checkCall_off off]
  | tick now => rw [meet, checkTick_off off]

theorem Reached.paused_of_off {c : PauseSettings} (reached : Reached c d)
    (off : c.enabled = false) : d.paused = false := by
  obtain ⟨ms, rfl⟩ := reached
  have kept : ((initial c).after ms).settings = c ∧ ((initial c).after ms).paused = false := by
    refine after_keeps (I := fun d => d.settings = c ∧ d.paused = false) (P := fun _ => True) ?_
      (fun _ _ => trivial) ⟨rfl, rfl⟩
    rintro m d - ⟨rfl, clear⟩
    exact ⟨settings_meet m d, (meet_of_off off m).trans clear⟩
  exact kept.2

end Detector

end HostLink.Pause
