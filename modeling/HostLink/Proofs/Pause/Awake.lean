import HostLink.Proofs.Pause.Run
import Mathlib

/-!
# HostLink.Proofs.Pause.Awake

What ends a pause. When the runtime is heard from, and not before the last heartbeat, there is no lag
any more. Then no check holds traffic back until the next heartbeat, and none leaves a pause noted
(`Open`). This takes a timeout above zero: with a timeout of zero no lag at all is a pause too
(`isStale_of_late`, `open_iff_lag_asked`).
-/

namespace HostLink.Pause

/-- Neither a heartbeat nor a sign of the runtime from before the last one. -/
def Moment.Spares (beat : Option Int) : Moment → Prop
  | .interaction now => ∀ t, beat = some t → t ≤ now
  | .heartbeat _ => False
  | .call _ => True
  | .tick _ => True

namespace Detector

variable {c : PauseSettings} {d : Detector}

theorem isStale_of_late {t : Int} (heard : d.lastInteraction = some t)
    (late : ∀ beat, d.lastHeartbeat = some beat → beat ≤ t) :
    d.isStale = true ↔ d.settings.pauseTimeout = 0 ∧ d.lastHeartbeat ≠ none := by
  have zero : d.settings.pauseTimeout = 0 ↔ d.settings.pauseTimeout.toNat = 0 :=
    UInt64.toNat_inj.symm
  unfold isStale lag
  rw [heard]
  cases beaten : d.lastHeartbeat with
  | none => simp
  | some beat =>
    have before := late beat beaten
    have no_lag : elapsed t beat = 0 := by
      unfold elapsed
      omega
    simp only [no_lag, PauseSettings.pauseTimeoutMs, decide_eq_true_eq, zero, ne_eq, reduceCtorEq,
      not_false_eq_true, and_true]
    omega

/-- No check holds traffic back, and none leaves a pause noted. -/
def Open (d : Detector) : Prop :=
  (d.checkCall.1 = false ∧ d.checkCall.2.1.paused = false) ∧
    ∀ now, (d.checkTick now).1 = false ∧ (d.checkTick now).2.1.paused = false

theorem open_of_off (off : d.settings.enabled = false) (clear : d.paused = false) : d.Open := by
  refine ⟨?_, fun now => ?_⟩
  · rw [checkCall_off off]
    exact ⟨rfl, clear⟩
  · rw [checkTick_off off]
    exact ⟨rfl, clear⟩

theorem open_of_fresh (on : d.settings.enabled = true) (fresh : d.isStale = false) : d.Open := by
  refine ⟨?_, fun now => ?_⟩
  · rw [checkCall_on on]
    exact ⟨fresh, fresh⟩
  · have check := tickCheck now d
    generalize d.checkTick now = r at check ⊢
    cases check with
    | off off => simp [on] at off
    | keepalive _ stale => simp [fresh] at stale
    | counted _ stale => simp [fresh] at stale
    | noticed _ stale => simp [fresh] at stale
    | awake => exact ⟨rfl, rfl⟩

/-! ## Between two heartbeats -/

/-- The runtime was heard from no earlier than the last heartbeat, which went out at `beat`. -/
structure Heard (beat : Option Int) (d : Detector) : Prop where
  lastHeartbeat : d.lastHeartbeat = beat
  late : ∃ t, d.lastInteraction = some t ∧ ∀ b, beat = some b → b ≤ t

theorem Heard.meet {beat : Option Int} {m : Moment} (spares : m.Spares beat)
    (heard : Heard beat d) : Heard beat (d.meet m) := by
  cases m with
  | interaction now => exact ⟨heard.lastHeartbeat, now, rfl, spares⟩
  | heartbeat now => exact spares.elim
  | call now =>
    obtain ⟨_, aside⟩ := d.checkCall_aside
    rw [Detector.meet, aside]
    exact ⟨heard.lastHeartbeat, heard.late⟩
  | tick now =>
    obtain ⟨_, _, aside⟩ := d.checkTick_aside now
    rw [Detector.meet, aside]
    exact ⟨heard.lastHeartbeat, heard.late⟩

/-- A sign of the runtime that is no earlier than the last heartbeat opens the way until the next
heartbeat, whatever is checked in between and how often, exactly if the detector is off, or some lag
is asked for, or no heartbeat has gone out yet. -/
theorem open_iff_lag_asked {now : Int} (reached : Reached c d)
    (late : ∀ beat, d.lastHeartbeat = some beat → beat ≤ now) :
    (∀ between, (∀ m ∈ between, m.Spares d.lastHeartbeat) →
      ((d.interaction now).after between).Open) ↔
    ¬ (c.enabled = true ∧ c.pauseTimeout = 0 ∧ d.lastHeartbeat ≠ none) := by
  constructor
  · rintro always ⟨on, zero, beaten⟩
    obtain ⟨⟨held, -⟩, -⟩ := always [] (by simp)
    have settings : (d.interaction now).settings = c := reached.settings
    have stale : (d.interaction now).isStale = true :=
      (isStale_of_late (d := d.interaction now) rfl late).mpr ⟨by rw [settings, zero], beaten⟩
    rw [after_nil, checkCall_on (by rw [settings, on]), stale] at held
    cases held
  · intro asked between spare
    have reached' : Reached c ((d.interaction now).after between) := by
      obtain ⟨ms, rfl⟩ := reached
      exact ⟨ms ++ .interaction now :: between, after_append ms _ _⟩
    have heard : Heard d.lastHeartbeat ((d.interaction now).after between) :=
      after_keeps (fun m e spares => Heard.meet spares) spare ⟨rfl, now, rfl, late⟩
    have settings := reached'.settings
    generalize (d.interaction now).after between = e at reached' heard settings ⊢
    cases on : c.enabled with
    | false => exact open_of_off (by rw [settings]; exact on) (reached'.paused_of_off on)
    | true =>
      obtain ⟨t, spoke, late⟩ := heard.late
      rw [← heard.lastHeartbeat] at late
      refine open_of_fresh (by rw [settings]; exact on) (eq_false_of_ne_true fun stale => ?_)
      obtain ⟨zero, beaten⟩ := (isStale_of_late spoke late).mp stale
      exact asked ⟨on, by rw [← zero, settings], by rw [← heard.lastHeartbeat]; exact beaten⟩

/-- A runtime that was paused under the default timings, with one heartbeat left out. -/
def dozed : List Moment := [.interaction 0, .heartbeat 6000, .tick 6000, .tick 6000]

/-- It is heard from again, and from then on nothing is held back. -/
theorem open_dozed : Reached {} ((initial {}).after dozed) ∧
    ((initial {}).after dozed).checkCall.1 = true ∧ ((initial {}).after dozed).skipped = 1 ∧
    ((((initial {}).after dozed).interaction 7000).after [.tick 7000, .call 7001]).Open := by
  have reached : Reached {} ((initial {}).after dozed) := ⟨dozed, rfl⟩
  have late : ∀ beat, ((initial {}).after dozed).lastHeartbeat = some beat → beat ≤ 7000 := by
    rintro beat ⟨⟩
    decide
  refine ⟨reached, by decide, by decide, (open_iff_lag_asked reached late).mpr ?_ _ ?_⟩
  · decide
  · intro m mem
    simp only [List.mem_cons, List.not_mem_nil, or_false] at mem
    rcases mem with rfl | rfl <;> trivial

/-- Settings that ask for no lag. -/
def impatient : PauseSettings := { pauseTimeout := 0 }

/-- They can be written down, and with them a runtime counts as paused right after it was heard from,
at a call and at a tick. -/
theorem exists_held :
    PauseSettings.ofJson? (.ofMembers [("pause_timeout_secs", .number "0")]) = some impatient ∧
    ∃ d : Detector, Reached impatient d ∧ d.lastHeartbeat = some 0 ∧
      (d.interaction 1).checkCall.1 = true ∧ (d.interaction 1).checkCall.2.1.paused = true ∧
      ((d.interaction 1).checkTick 1).1 = true := by
  refine ⟨by cbv, (initial impatient).after [.heartbeat 0], ⟨_, rfl⟩, rfl, ?_⟩
  decide

end Detector

end HostLink.Pause
