import HostLink.Proofs.Session.Heed
import HostLink.Proofs.Session.Memory

/-!
# HostLink.Proofs.Session.Departure

What a session makes of the plans of its runtime. As long as a connection lasts, calls are let out
from the moment the runtime has started until it announces that it leaves, whatever else comes in
and whatever the host does (`Visit`).

A connection should begin without such an announcement, but letting a runtime in forgets only the
announcement of a return. One of a departure outlives the connection in which it was made if the
host ends that as expected (`Journal.Lingers`); the next runtime starts under it, and no call is
let out to it.

* `Standing` — where the intent comes from, while the link is down and while it is up.
* `intent_iff_lingers` — with what intent connections begin, and when calls are let out.
-/

namespace HostLink

/-- An announced return is forgotten when somebody is let in, an announced departure is not. -/
theorem Status.connected_intent (s : Status) :
    s.connected.intent = .none ↔ s.intent ≠ .disconnecting := by
  unfold connected isReturning
  cases h : s.intent <;> simp

theorem Status.allows_call {s : Status} (up : s.isUp = true) :
    s.allows .call = true ↔ s.started = true ∧ s.intent = .none := by
  simp [allows, isLive, up]

/-- The last connection was ended as expected while a departure stood announced. -/
def Journal.Lingers {η : Type} (j : Journal η) : Prop :=
  ∃ kept, j.lastEnd = some (.expected, kept) ∧ kept.status.intent = .disconnecting

namespace Session

variable {κ η : Type}

/-- The connection that lasts: what there was before, with what memory it began, and what has
happened since. -/
structure Visit (s : Session κ η) (before : Journal η) (kept : Memory η) (after : Journal η) :
    Prop where
  journal : s.journal = before ++ .letIn kept :: after
  alone : after.Lonely
  began : kept.status.isUp = false → (kept.status.connected.intent = .none ↔ ¬ before.Lingers)
  started : s.status.started = true ↔
    kept.status.started = true ∨ ∃ f, .received f ∈ after ∧ f.Starts
  intent : s.status.intent = .none ↔
    kept.status.connected.intent = .none ∧ ∀ f, .received f ∈ after → ¬ f.Departs

theorem Entered.visit {s t : Session κ η} (h : Entered s t)
    (down : s.status.isUp = false → (s.status.intent = .disconnecting ↔ s.journal.Lingers)) :
    ∃ after, t.Visit s.journal s.memory after := by
  obtain ⟨after, silent, journal⟩ := h.journal
  have unheard (f : Frame) : .received f ∉ after := fun mem => nomatch silent _ mem
  refine ⟨after, journal, silent.lonely, fun linked => ?_, ?_, ?_⟩
  · rw [Status.connected_intent, Ne, ← down linked]
    rfl
  · have same : t.status.started = s.status.started := by
      rw [h.status, Status.connected]
      split <;> rfl
    simp [same, unheard, Session.memory]
  · simp [h.status, unheard, Session.memory]

theorem Visit.quiet {s t : Session κ η} {before after : Journal η} {kept : Memory η}
    (h : s.Visit before kept after) (quiet : Quietly s t) (abides : Abides s t) :
    ∃ after, t.Visit before kept after := by
  obtain ⟨es, silent, journal⟩ := quiet.journal
  have unheard (f : Frame) : .received f ∉ es := fun mem => nomatch silent _ mem
  refine ⟨after ++ es, by simp [journal, h.journal], ?_, h.began, ?_, ?_⟩
  · simp [h.alone, silent.lonely]
  · simp [abides.started, h.started, unheard]
  · simp [abides.intent, h.intent, unheard]

theorem Visit.heard {s t : Session κ η} {before after es : Journal η} {kept : Memory η}
    {f : Frame} (h : s.Visit before kept after) (silent : es.Silent)
    (journal : t.journal = s.journal ++ .received f :: es) (heeds : Heeds f s t) :
    ∃ after, t.Visit before kept after := by
  have unheard (f : Frame) : .received f ∉ es := fun mem => nomatch silent _ mem
  refine ⟨after ++ .received f :: es, by simp [journal, h.journal], ?_, h.began, ?_, ?_⟩
  · simp [h.alone, silent.lonely]
  · rw [heeds.started, h.started]
    simp [unheard, or_and_right, exists_or, or_assoc]
  · rw [heeds.intent, h.intent]
    simp [unheard, or_imp, forall_and, and_assoc]

variable [Channel κ]

theorem Ended.lingers {expected : Bool} {s t : Session κ η}
    (h : Ended (s.status.cause expected) s t) :
    t.status.intent = .disconnecting ↔ t.journal.Lingers := by
  rw [Journal.Lingers, h.lastEnd, h.status]
  cases expected with
  | true =>
    constructor
    · exact fun leaving => ⟨s.memory, rfl, leaving⟩
    · rintro ⟨kept, last, leaving⟩
      cases last
      exact leaving
  | false =>
    by_cases leaving : s.status.intent = .disconnecting
    · have judged : s.status.cause false = .declared := by simp [Status.cause, leaving]
      simp [judged, Status.disconnected]
    · have judged : s.status.cause false = .unexpected := by simp [Status.cause, leaving]
      simp [judged, Status.disconnected, leaving]

/-- While the link is down, an announced departure is one that lingers. -/
theorem Kind.lingers {s t : Session κ η} (kind : Kind s t) (sound : s.Sound)
    (h : s.status.isUp = false → (s.status.intent = .disconnecting ↔ s.journal.Lingers))
    (down : t.status.isUp = false) : t.status.intent = .disconnecting ↔ t.journal.Lingers := by
  cases kind with
  | quiet calm recalls =>
    have down : s.status.isUp = false := calm.isUp.symm.trans down
    obtain ⟨hostInit, memory⟩ := recalls down
    have same : t.status.intent = s.status.intent := congrArg (fun m => m.status.intent) memory
    rw [same, h down, Journal.Lingers, Journal.Lingers, calm.quiet.lastEnd]
  | heard heard calm =>
    rw [calm.isUp, heard.isUp, sound.tuned heard.tuned] at down
    cases down
  | @left f u heard up ended =>
    have asked : Ended (u.expecting.status.cause true) u.expecting t := ended
    exact asked.lingers
  | entered _ entered =>
    rw [entered.isUp] at down
    cases down
  | ended expected up ended => exact ended.lingers

/-! ## Runs -/

/-- Where the intent comes from: from an end, or from what has been heard since somebody was let
in. -/
structure Standing (s : Session κ η) : Prop where
  settled : Settled s
  down : s.status.isUp = false → (s.status.intent = .disconnecting ↔ s.journal.Lingers)
  up : s.status.isUp = true → ∃ before kept after, s.Visit before kept after

theorem Fresh.standing [LawfulChannel κ] {s : Session κ η} (h : Fresh s) : Standing s where
  settled := h.settled
  down _ := by
    have blank : s.status = .initial := congrArg Memory.status h.memory
    simp [blank, Status.initial, Journal.Lingers, h.lastEnd]
  up up := by
    have blank : s.status = .initial := congrArg Memory.status h.memory
    rw [blank] at up
    cases up

variable [Host η]

theorem Move.standing [LawfulChannel κ] {s t : Session κ η} (move : Move s t) (h : Standing s) :
    Standing t where
  settled := move.kind.settled h.settled
  down := move.kind.lingers h.settled.sound h.down
  up up := by
    cases move.lasts up with
    | quiet linked quiet abides =>
      obtain ⟨before, kept, after, visit⟩ := h.up linked
      exact ⟨before, kept, visit.quiet quiet abides⟩
    | heard linked silent journal heeds =>
      obtain ⟨before, kept, after, visit⟩ := h.up linked
      exact ⟨before, kept, visit.heard silent journal heeds⟩
    | entered down entered => exact ⟨s.journal, s.memory, entered.visit h.down⟩

theorem Run.standing [LawfulChannel κ] {deeds : List (Deed κ η)} {s : Session κ η}
    (run : Run deeds s) : Standing s := by
  induction run with
  | made settings listener host closed =>
    exact (fresh_make settings listener host closed).standing
  | did run patience act h ih =>
    rcases perform_cases h with ⟨-, path⟩ | ⟨-, u, still, entered⟩
    · exact path.keeps (fun _ _ => Move.standing) ih
    · -- somebody was let in on top of another: a visit begins, from a link that was up
      refine ⟨entered.settled, fun down => ?_, fun _ => ⟨u.journal, u.memory, ?_⟩⟩
      · rw [entered.isUp] at down
        cases down
      · exact entered.visit (still.kind.lingers ih.settled.sound ih.down)
  | passed run h peer ih =>
    refine ⟨(run.passed h peer).settled, ih.down, fun up => ?_⟩
    obtain ⟨before, kept, after, visit⟩ := ih.up up
    exact ⟨before, kept, visit.quiet (.of_eq rfl) (.of_status rfl)⟩

/-- A connection begins without an announced departure exactly if none lingers. While it lasts,
calls are let out exactly if the runtime has started, then or before, its connection has begun
without an announced departure, and it has announced none since. -/
theorem intent_iff_lingers [LawfulChannel κ] {r s : Session κ η} (reached : Reachable r)
    (path : Path r s) :
    (∀ t, Move s t → s.status.isUp = false → t.status.isUp = true →
      (t.status.intent = .none ↔ ¬ s.journal.Lingers)) ∧
    (s.status.isUp = true → ∃ (before : Journal η) (kept : Memory η) (after : Journal η),
      s.journal = before ++ .letIn kept :: after ∧ after.Lonely ∧
      (kept.status.isUp = false → (kept.status.connected.intent = .none ↔ ¬ before.Lingers)) ∧
      (s.status.allows .call = true ↔
        (kept.status.started = true ∨ ∃ f, .received f ∈ after ∧ f.Starts) ∧
        kept.status.connected.intent = .none ∧ ∀ f, .received f ∈ after → ¬ f.Departs)) := by
  obtain ⟨deeds, run⟩ := reached
  have standing : Standing s := path.keeps (fun _ _ => Move.standing) run.standing
  refine ⟨fun t move down up => ?_, fun up => ?_⟩
  · cases move.lasts up with
    | quiet linked => simp [down] at linked
    | heard linked => simp [down] at linked
    | entered _ entered => rw [entered.status, Status.connected_intent, Ne, standing.down down]
  · obtain ⟨before, kept, after, visit⟩ := standing.up up
    refine ⟨before, kept, after, visit.journal, visit.alone, visit.began, ?_⟩
    rw [Status.allows_call up, visit.started, visit.intent]

/-- A runtime that starts. -/
def starter : Scripted.Wire := { peers := [.visit [.frame ⟨Opcode.start, []⟩]] }

/-- It is let in without an announced departure, and calls are let out to it. -/
theorem intent_starter :
    (∃ t, Move (rehearsal starter) t ∧ t.status.isUp = true ∧ t.status.intent = .none) ∧
    ∃ s : Session Scripted.Wire Scripted.Catalog, (rehearsal starter).tick 9 = some s ∧
      s.status.allows .call = true ∧
      ∃ (before : Journal Scripted.Catalog) (kept : Memory Scripted.Catalog)
        (after : Journal Scripted.Catalog), s.journal = before ++ .letIn kept :: after ∧
        kept.status.connected.intent = .none ∧ ∀ f, .received f ∈ after → ¬ f.Departs := by
  have made : Run [] (rehearsal starter) := run_rehearsal rfl
  constructor
  · let c := (Channel.connect (rehearsal starter).channel).2
    have entered : Move (rehearsal starter) ((rehearsal starter).takeIn c) := .entered rfl rfl
    have up := (entered_takeIn c (rehearsal starter)).isUp
    have fresh : ¬ (rehearsal starter).journal.Lingers := by
      have nothing : (rehearsal starter).journal.lastEnd = none :=
        (fresh_make {} .full ({ natives := [] } : Scripted.Catalog) rfl).lastEnd
      simp [Journal.Lingers, nothing]
    exact ⟨_, entered, up, ((intent_iff_lingers ⟨_, made⟩ .refl).1 _ entered rfl up).mpr fresh⟩
  · obtain ⟨s, ticked⟩ := Option.isSome_iff_exists.mp
      (by decide : ((rehearsal starter).tick 9).isSome = true)
    have shown : ((rehearsal starter).tick 9).all
        (fun s => s.status.isUp && s.status.allows .call) = true := by decide
    rw [ticked, Option.all_some, Bool.and_eq_true] at shown
    obtain ⟨up, allowed⟩ := shown
    obtain ⟨before, kept, after, journal, -, -, allows⟩ :=
      (intent_iff_lingers ⟨_, made⟩ (conduct_path.tick ticked)).2 up
    obtain ⟨-, began, stayed⟩ := allows.mp allowed
    exact ⟨s, ticked, allowed, before, kept, after, journal, began, stayed⟩

/-- Two runtimes at the door. The first announces that it leaves, the second starts. -/
def heirs : Scripted.Wire :=
  { peers := [.visit [.frame ⟨Opcode.disconnect, []⟩], .visit [.frame ⟨Opcode.start, []⟩]] }

/-- The host has seen the first one's announcement, and has ended the connection as expected. -/
def dismissed : Option (Session Scripted.Wire Scripted.Catalog) :=
  ((rehearsal heirs).tick 9).map (·.disconnect none true)

/-- Then the second one is let in under the announcement of the first, and when it has started, no
call is let out. -/
theorem exists_lingering : ∃ deeds, ∃ s t u : Session Scripted.Wire Scripted.Catalog,
    Run deeds s ∧ s.status.isUp = false ∧
    s.perform 9 .connect = some t ∧ t.status.isUp = true ∧ t.status.intent = .disconnecting ∧
    t.perform 9 .tick = some u ∧ u.journal.received = t.journal.received ++ [⟨Opcode.start, []⟩] ∧
    u.status.isUp = true ∧ u.status.started = true ∧ u.status.allows .call = false := by
  obtain ⟨first, ticked⟩ := Option.isSome_iff_exists.mp
    (by decide : ((rehearsal heirs).tick 9).isSome = true)
  let s := first.disconnect none true
  have run : Run _ s := ((run_rehearsal rfl).did 9 .tick ticked).did 9 (.disconnect none true) rfl
  have left : dismissed = some s := by rw [dismissed, ticked, Option.map_some]
  have entrance : dismissed.all (fun s => !s.status.isUp && s.connect.2.status.isUp &&
      decide (s.connect.2.status.intent = .disconnecting)) = true := by decide
  have came : (dismissed.bind fun s => s.connect.2.tick 9).isSome = true := by decide
  have later : dismissed.all (fun s => (s.connect.2.tick 9).all fun u =>
      decide (u.journal.received = s.connect.2.journal.received ++ [⟨Opcode.start, []⟩]) &&
        u.status.isUp && u.status.started && !u.status.allows .call) = true := by decide
  rw [left] at entrance came later
  obtain ⟨u, ticked'⟩ := Option.isSome_iff_exists.mp came
  rw [Option.bind_some] at ticked'
  simp only [Option.all_some, ticked', Bool.and_eq_true, decide_eq_true_eq,
    Bool.not_eq_true'] at entrance later
  obtain ⟨⟨down, up⟩, intent⟩ := entrance
  obtain ⟨⟨⟨received, up'⟩, started⟩, shut⟩ := later
  exact ⟨_, s, s.connect.2, u, run, down, rfl, up, intent, ticked', received, up', started, shut⟩

end Session

end HostLink
