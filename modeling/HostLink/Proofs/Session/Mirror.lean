import HostLink.Proofs.Session.Face
import HostLink.Proofs.Session.Succession
import Mathlib.Data.List.Chain

/-!
# HostLink.Proofs.Session.Mirror

The holding state mirrors the link. A session keeps the two apart: the link goes up and down with
its connections, the holding state is raised by every transition but a connection, and a tick or a
call may lower it without any. All the same the one is up exactly while the other is down, since a
tick or a call lowers it only under a link that is up (`Face.Mirrors`, kept by `Turns.mirrors`).

What a listener is told agrees with what is there (`Holding.Told`): the changes of the holding state
alternate, beginning with a rise, and the last of them is how it stands.

* `holding_mirrors_link` — so it is at every moment.
-/

namespace HostLink

namespace Report

def event? : Report → Option Lifecycle
  | .event e => some e
  | .holding _ => none

def holding? : Report → Option Bool
  | .event _ => none
  | .holding on => some on

end Report

/-- The changes of the holding state that were reported. -/
def Journal.holdings {η : Type} (j : Journal η) : List Bool := j.reports.filterMap Report.holding?

theorem Journal.lifecycles_reports {η : Type} (j : Journal η) :
    j.reports.filterMap Report.event? = j.lifecycles := by
  have same (e : Event η) : e.report?.bind Report.event? = e.lifecycle? := by
    cases e with
    | report r => cases r <;> rfl
    | _ => rfl
  simp [Journal.reports, Journal.lifecycles, List.filterMap_filterMap, same]

namespace Holding

/-- What was told so far agrees with what is there. -/
structure Told (rs : List Report) (h : Holding) : Prop where
  alternates : List.IsChain (· ≠ ·) (false :: rs.filterMap Report.holding?)
  /-- Who listens to the holding state knows how it stands. -/
  current : h.listener = .full → (false :: rs.filterMap Report.holding?).getLast? = some h.on
  unheard : h.listener ≠ .full → rs.filterMap Report.holding? = []
  recent : h.listener ≠ .absent → (rs.filterMap Report.event?).getLast? = h.last

theorem told_initial (listener : Listener) : Told [] (initial listener) where
  alternates := .singleton false
  current _ := rfl
  unheard _ := rfl
  recent _ := rfl

theorem set_on (on : Bool) (h : Holding) : (h.set on).1.on = on := by
  unfold set
  split
  · assumption
  · rfl

theorem set_last (on : Bool) (h : Holding) : (h.set on).1.last = h.last := by
  unfold set
  split <;> rfl

theorem set_events (on : Bool) (h : Holding) : (h.set on).2.filterMap Report.event? = [] := by
  unfold set
  split
  · rfl
  · cases h.listener <;> rfl

/-- A change is told to whoever listens to it, and only if it is one. -/
theorem set_holdings (on : Bool) (h : Holding) : (h.set on).2.filterMap Report.holding? =
    if h.listener = .full ∧ h.on ≠ on then [on] else [] := by
  unfold set
  split
  · rename_i same
    rw [if_neg fun changes => changes.2 same]
    rfl
  · rename_i changes
    cases h.listener with
    | full => rw [if_pos ⟨rfl, changes⟩]; rfl
    | events => rfl
    | absent => rfl

theorem Told.set {rs : List Report} {h : Holding} (told : Told rs h) (on : Bool) :
    Told (rs ++ (h.set on).2) (h.set on).1 := by
  have holdings := set_holdings on h
  by_cases changes : h.listener = .full ∧ h.on ≠ on
  · rw [if_pos changes] at holdings
    obtain ⟨full, other⟩ := changes
    refine ⟨?_, fun _ => ?_, fun partly => ?_, fun _ => ?_⟩
    · rw [List.filterMap_append, holdings, ← List.cons_append, List.isChain_append]
      refine ⟨told.alternates, .singleton on, fun b last c first => ?_⟩
      rw [told.current full, Option.mem_some] at last
      rw [List.head?_singleton, Option.mem_some] at first
      subst last first
      exact other
    · rw [List.filterMap_append, holdings, ← List.cons_append, List.getLast?_concat, set_on]
    · exact absurd ((Session.set_listener on h).trans full) partly
    · rw [List.filterMap_append, set_events, List.append_nil, set_last]
      exact told.recent (by simp [full])
  · rw [if_neg changes] at holdings
    refine ⟨?_, fun full => ?_, fun partly => ?_, fun heard => ?_⟩
    · rw [List.filterMap_append, holdings, List.append_nil]
      exact told.alternates
    · rw [Session.set_listener] at full
      have same : h.on = on := by
        by_contra other
        exact changes ⟨full, other⟩
      rw [List.filterMap_append, holdings, List.append_nil, set_on, told.current full, same]
    · rw [List.filterMap_append, holdings, List.append_nil]
      exact told.unheard (by rwa [Session.set_listener] at partly)
    · rw [List.filterMap_append, set_events, List.append_nil, set_last]
      exact told.recent (by rwa [Session.set_listener] at heard)

theorem hear_holdings (l : Listener) (e : Lifecycle) :
    (l.hear (.event e)).filterMap Report.holding? = [] := by
  cases l <;> rfl

theorem Told.event {rs : List Report} {h : Holding} (told : Told rs h) (e : Lifecycle) :
    Told (rs ++ h.listener.hear (.event e)) { h with last := some e } := by
  have holdings : (rs ++ h.listener.hear (.event e)).filterMap Report.holding? =
      rs.filterMap Report.holding? := by
    rw [List.filterMap_append, hear_holdings, List.append_nil]
  refine ⟨?_, fun full => ?_, fun partly => ?_, fun heard => ?_⟩
  · rw [holdings]
    exact told.alternates
  · rw [holdings]
    exact told.current full
  · rw [holdings]
    exact told.unheard partly
  · rw [List.filterMap_append]
    cases listens : h.listener with
    | absent => exact absurd listens heard
    | events => exact List.getLast?_concat
    | full => exact List.getLast?_concat

/-- A transition is told first, and then the change that it brings about. -/
theorem signal_eq (e : Lifecycle) (h : Holding) :
    h.signal e = ((({ h with last := some e } : Holding).set (onAfter e)).1,
      h.listener.hear (.event e) ++ (({ h with last := some e } : Holding).set (onAfter e)).2) := rfl

theorem Told.signal {rs : List Report} {h : Holding} (told : Told rs h) (e : Lifecycle) :
    Told (rs ++ (h.signal e).2) (h.signal e).1 := by
  rw [signal_eq, ← List.append_assoc]
  exact (told.event e).set (onAfter e)

theorem signal_on (e : Lifecycle) (h : Holding) : (h.signal e).1.on = onAfter e := by
  rw [signal_eq]
  exact set_on _ _

theorem signal_last (e : Lifecycle) (h : Holding) : (h.signal e).1.last = some e := by
  rw [signal_eq]
  exact set_last _ _

end Holding

/-- The holding state is up exactly while the link is down, and both agree with what was told. -/
structure Face.Mirrors {η : Type} (f : Face η) : Prop where
  holding : f.holding.on = !f.up
  last : f.holding.last = some .connected ↔ f.up = true
  told : Holding.Told f.reports f.holding

namespace Session

variable {κ η : Type}

theorem mirrors_starting (listener : Listener) :
    (Face.signal .starting ⟨false, .initial listener, [], []⟩ : Face η).Mirrors where
  holding := Holding.signal_on .starting (.initial listener)
  last := by
    change ((Holding.initial listener).signal .starting).1.last = _ ↔ false = true
    rw [Holding.signal_last]
    simp
  told := (Holding.told_initial listener).signal .starting

theorem mirrors_lowered {f : Face η} (h : f.Mirrors) (up : f.up = true) : f.lowered.Mirrors where
  holding := (Holding.set_on false f.holding).trans (by simp [Face.lowered, up])
  last := by
    change (f.holding.set false).1.last = _ ↔ _
    rw [Holding.set_last]
    exact h.last
  told := h.told.set false

theorem mirrors_entered {f : Face η} (h : f.Mirrors) : f.entered.Mirrors where
  holding := Holding.signal_on .connected f.holding
  last := by
    change (f.holding.signal .connected).1.last = _ ↔ _
    rw [Holding.signal_last]
    simp [Face.entered]
  told := h.told.signal .connected

theorem mirrors_lost {f : Face η} (h : f.Mirrors) (cause : Cause) (kept : Memory η) :
    (f.lost cause kept).Mirrors where
  holding := by
    refine (Holding.signal_on cause.lifecycle f.holding).trans ?_
    cases cause <;> rfl
  last := by
    change (f.holding.signal cause.lifecycle).1.last = _ ↔ _
    rw [Holding.signal_last]
    cases cause <;> simp [Face.lost, Cause.lifecycle]
  told := h.told.signal cause.lifecycle

variable [Channel κ]

theorem Turns.mirrors {s t : Session κ η} (turns : Turns s t) (h : s.face.Mirrors) :
    t.face.Mirrors := by
  cases turns with
  | same face =>
    rw [face]
    exact h
  | lowered up face =>
    rw [face]
    exact mirrors_lowered h up
  | entered face =>
    rw [face]
    exact mirrors_entered h
  | lost request up eq =>
    rw [eq, face_disconnect _ _ up, request.face]
    exact mirrors_lost h _ _

variable [Host η]

/-- At every moment the holding state is up exactly while the link is down, the last transition was
a connection exactly while it is up, and the changes of the holding state that were reported
alternate, beginning with a rise. A listener knows the last transition, and the holding state too
if it wants to. -/
theorem holding_mirrors_link {s : Session κ η} (occurs : s.Occurs) :
    (s.holding.on = true ↔ s.status.isUp = false) ∧
    (s.holding.last = some .connected ↔ s.status.isUp = true) ∧
    List.IsChain (· ≠ ·) (false :: s.journal.holdings) ∧
    (s.holding.listener = .full →
      (false :: s.journal.holdings).getLast? = some s.holding.on) ∧
    (s.holding.listener ≠ .absent → s.journal.lifecycles.getLast? = s.holding.last) := by
  have mirrors : s.face.Mirrors := occurs.keeps (I := fun s => s.face.Mirrors)
    (fun settings listener channel host => by
      rw [face_make]
      exact mirrors_starting listener)
    fun _ _ _ stride h => stride.turns.mirrors h
  obtain ⟨holding, last, told⟩ := mirrors
  refine ⟨?_, last, told.alternates, told.current, ?_⟩
  · have holding : s.holding.on = !s.status.isUp := holding
    rw [holding, Bool.not_eq_true']
  · rw [← Journal.lifecycles_reports]
    exact told.recent

/-- When a runtime has come and announced its return, the holding state is up again: it was raised
at the start, lowered for the runtime, and raised when that left. -/
theorem holding_mirrors_leaver : ∃ s : Session Scripted.Wire Scripted.Catalog, s.Occurs ∧
    s.status.isUp = false ∧ s.holding.on = true ∧ s.journal.holdings = [true, false, true] ∧
    List.IsChain (· ≠ ·) (false :: s.journal.holdings) := by
  obtain ⟨t, ran⟩ := Option.isSome_iff_exists.mp
    (by decide : ((rehearsal leaver).tick 9).isSome = true)
  have shown : ((rehearsal leaver).tick 9).all (fun t =>
      !t.status.isUp && decide (t.journal.holdings = [true, false, true])) = true := by decide
  rw [ran, Option.all_some, Bool.and_eq_true, Bool.not_eq_true', decide_eq_true_eq] at shown
  obtain ⟨down, holdings⟩ := shown
  have occurs : t.Occurs := ((run_rehearsal rfl).did 9 .tick ran).occurs
  obtain ⟨mirrors, -, alternates, -, -⟩ := holding_mirrors_link occurs
  exact ⟨t, occurs, down, mirrors.mpr down, holdings, alternates⟩

end Session

end HostLink
