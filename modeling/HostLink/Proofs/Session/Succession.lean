import HostLink.Proofs.Session.Memory
import Mathlib.Data.List.Induction

/-!
# HostLink.Proofs.Session.Succession

One runtime after another. What a session reports of its life is a start, and then connections each
of which comes to one end before the next begins (`TakeTurns`), as long as the host does not connect
under a link that is up and whose channel has lost its peer (`Deed.Usurps`). A tick or a call ends
such a connection first; `Session.connect` lets somebody in on top of it, with everything that the
peer before had registered, and from then on the reports never again make sense.

The reports are read by an automaton, `turn`, whose state is whether a connection is open. It never
recovers from a report that is out of turn.
-/

namespace HostLink

/-- A transition that was reported. -/
def Event.lifecycle? {η : Type} : Event η → Option Lifecycle
  | .report (.event e) => some e
  | _ => none

/-- The transitions that were reported. -/
def Journal.lifecycles {η : Type} (j : Journal η) : List Lifecycle := j.filterMap Event.lifecycle?

namespace Lifecycle

/-- A start, then connections each with its end; the last may still last. -/
def TakeTurns (es : List Lifecycle) : Prop :=
  ∃ (ends : List Lifecycle) (lasting : Bool), (∀ e ∈ ends, e = .disconnected ∨ e = .error) ∧
    es = .starting :: ends.flatMap (fun e => [.connected, e]) ++
      if lasting then [.connected] else []

/-- Whether a connection is open after these transitions, newest first; nothing if they are not in
turn. -/
def turn : List Lifecycle → Option Bool
  | [] => none
  | .starting :: es => if es = [] then some false else none
  | .connected :: es => if turn es = some false then some true else none
  | .disconnected :: es => if turn es = some true then some false else none
  | .error :: es => if turn es = some true then some false else none

theorem turn_ends (ends : List Lifecycle) (good : ∀ e ∈ ends, e = .disconnected ∨ e = .error) :
    turn (.starting :: ends.flatMap (fun e => [.connected, e])).reverse = some false := by
  induction ends using List.reverseRecOn with
  | nil => rfl
  | append_singleton ends e ih =>
    have before := ih fun e' he' => good e' (List.mem_append_left _ he')
    have split : (.starting :: (ends ++ [e]).flatMap (fun e => [.connected, e])).reverse =
        e :: .connected :: (.starting :: ends.flatMap (fun e => [.connected, e])).reverse := by
      simp
    rw [split]
    rcases good e (by simp) with rfl | rfl
    · simp only [turn, before, if_true]
    · simp only [turn, before, if_true]

theorem takeTurns_of_turn (es : List Lifecycle) :
    ∀ lasting, turn es = some lasting → ∃ ends : List Lifecycle,
      (∀ e ∈ ends, e = .disconnected ∨ e = .error) ∧
      es.reverse = .starting :: ends.flatMap (fun e => [.connected, e]) ++
        if lasting then [.connected] else [] := by
  induction es with
  | nil => intro lasting h; cases h
  | cons e es ih =>
    intro lasting h
    have closes (h : turn es = some true) (he : e = .disconnected ∨ e = .error) :
        ∃ ends : List Lifecycle, (∀ e ∈ ends, e = .disconnected ∨ e = .error) ∧
          (e :: es).reverse = .starting :: ends.flatMap (fun e => [.connected, e]) := by
      obtain ⟨ends, good, eq⟩ := ih true h
      refine ⟨ends ++ [e], ?_, by simp [eq]⟩
      simpa [or_imp, forall_and] using ⟨fun e' he' => good e' he', he⟩
    cases e with
    | starting =>
      simp only [turn] at h
      split at h
      · rename_i nothing
        cases h
        exact ⟨[], by simp, by simp [nothing]⟩
      · cases h
    | connected =>
      simp only [turn] at h
      split at h
      · rename_i idle
        cases h
        obtain ⟨ends, good, eq⟩ := ih false idle
        exact ⟨ends, good, by simp [eq]⟩
      · cases h
    | disconnected =>
      simp only [turn] at h
      split at h
      · rename_i open_
        cases h
        simpa using closes open_ (.inl rfl)
      · cases h
    | error =>
      simp only [turn] at h
      split at h
      · rename_i open_
        cases h
        simpa using closes open_ (.inr rfl)
      · cases h

/-- The automaton reads what is in turn, and nothing else. -/
theorem takeTurns_iff (es : List Lifecycle) :
    TakeTurns es ↔ ∃ lasting, turn es.reverse = some lasting := by
  constructor
  · rintro ⟨ends, lasting, good, rfl⟩
    have ended := turn_ends ends good
    cases lasting with
    | false => exact ⟨false, by simpa using ended⟩
    | true =>
      refine ⟨true, ?_⟩
      rw [List.reverse_append]
      simp only [if_true, List.reverse_singleton, List.singleton_append, turn, ended]
  · rintro ⟨lasting, h⟩
    obtain ⟨ends, good, eq⟩ := takeTurns_of_turn _ _ h
    exact ⟨ends, lasting, good, by rw [← eq, List.reverse_reverse]⟩

instance (es : List Lifecycle) : Decidable (TakeTurns es) :=
  decidable_of_iff ((turn es.reverse).isSome = true)
    (by rw [takeTurns_iff, Option.isSome_iff_exists])

end Lifecycle

namespace Journal

variable {η : Type}

theorem lifecycles_append (es fs : Journal η) :
    lifecycles (es ++ fs) = es.lifecycles ++ fs.lifecycles := List.filterMap_append

theorem lifecycles_quiet {es : Journal η} (quiet : es.Quiet) : es.lifecycles = [] := by
  refine List.filterMap_eq_nil_iff.mpr fun e he => ?_
  have open_ := quiet e he
  cases e with
  | report r =>
    cases r with
    | event e => cases open_
    | holding on => rfl
  | letIn _ => cases open_
  | hungUp _ _ => cases open_
  | _ => rfl

/-- An entrance that is not among the last events is among those before. -/
theorem letIn_before {older es before after : Journal η} {kept : Memory η} (lonely : es.Lonely)
    (split : older ++ es = before ++ .letIn kept :: after) :
    ∃ after', older = before ++ .letIn kept :: after' := by
  rcases List.append_eq_append_iff.mp split with ⟨as, -, eq⟩ | ⟨bs, eq, rest⟩
  · have mem : Event.letIn kept ∈ es := by simp [eq]
    exact absurd mem (lonely kept)
  · cases bs with
    | nil =>
      have mem : Event.letIn kept ∈ [] ++ es := rest ▸ List.mem_cons_self
      exact absurd mem (lonely kept)
    | cons b bs =>
      cases rest
      exact ⟨bs, eq⟩

end Journal

namespace Session

variable {κ η : Type}

theorem told_lifecycles {s : Session κ η} (heard : s.holding.listener ≠ .absent) (e : Lifecycle) :
    (s.told e).lifecycles = [e] := by
  unfold told
  cases h : s.holding.listener with
  | absent => exact absurd h heard
  | events => rfl
  | full => rfl

/-- The transitions that were reported, newest first. -/
def reported (s : Session κ η) : List Lifecycle := Journal.lifecycles s.past

theorem lifecycles_journal (s : Session κ η) : s.journal.lifecycles = s.reported.reverse :=
  List.filterMap_reverse

theorem Quietly.reported {s t : Session κ η} (h : Quietly s t) : t.reported = s.reported := by
  obtain ⟨es, past, quiet⟩ := h
  rw [Session.reported, past, Journal.lifecycles_append, Journal.lifecycles_quiet quiet]
  rfl

theorem Entered.reported {s t : Session κ η} (h : Entered s t)
    (heard : s.holding.listener ≠ .absent) : t.reported = .connected :: s.reported := by
  obtain ⟨es, quiet, past⟩ := h.past
  rw [Session.reported, past, Journal.lifecycles_append, Journal.lifecycles_append,
    Journal.lifecycles_quiet quiet, told_lifecycles heard]
  rfl

/-- The reports are in turn, and say whether the link is up. -/
def InTurn (s : Session κ η) : Prop := Lifecycle.turn s.reported = some s.status.isUp

/-- Some report was out of turn. -/
def Spoiled (s : Session κ η) : Prop := s.reported ≠ [] ∧ Lifecycle.turn s.reported = none

theorem Spoiled.cons {s t : Session κ η} (h : Spoiled s) {e : Lifecycle}
    (reported : t.reported = e :: s.reported) : Spoiled t := by
  obtain ⟨some_, turn⟩ := h
  refine ⟨by simp [reported], ?_⟩
  cases e <;> simp [reported, Lifecycle.turn, turn, some_]

variable [Channel κ]

theorem Fresh.reported {s : Session κ η} (h : Fresh s) (heard : s.holding.listener ≠ .absent) :
    s.reported = [.starting] := by
  obtain ⟨es, quiet, past⟩ := h.past
  rw [Session.reported, past, Journal.lifecycles_append, Journal.lifecycles_quiet quiet,
    told_lifecycles heard]
  rfl

theorem Ended.reported {cause : Cause} {s t : Session κ η} (h : Ended cause s t)
    (heard : s.holding.listener ≠ .absent) : t.reported = cause.lifecycle :: s.reported := by
  obtain ⟨es, fs, gs, quietE, quietF, quietG, past⟩ := h.past
  have hungUp (rest : Journal η) :
      Journal.lifecycles (.hungUp cause s.memory :: rest) = rest.lifecycles := rfl
  rw [Session.reported, past]
  simp only [Journal.lifecycles_append, hungUp, Journal.lifecycles_quiet quietE,
    Journal.lifecycles_quiet quietF, Journal.lifecycles_quiet quietG, told_lifecycles heard]
  rfl

theorem Kind.listener {s t : Session κ η} (kind : Kind s t) :
    t.holding.listener = s.holding.listener := by
  cases kind with
  | quiet calm _ => exact calm.listener
  | heard heard calm => exact calm.listener.trans heard.listener
  | left heard _ ended => exact ended.listener.trans heard.listener
  | entered _ entered => exact entered.listener
  | ended _ _ ended => exact ended.listener

/-- A move reports nothing, or a connection on a link that was down, or the end of one. -/
theorem Kind.reported {s t : Session κ η} (kind : Kind s t)
    (heard : s.holding.listener ≠ .absent) :
    (t.reported = s.reported ∧ t.status.isUp = s.status.isUp) ∨
      (s.status.isUp = false ∧ t.status.isUp = true ∧ t.reported = .connected :: s.reported) ∨
      (s.status.isUp = true ∧ t.status.isUp = false ∧
        ∃ cause : Cause, t.reported = cause.lifecycle :: s.reported) := by
  cases kind with
  | quiet calm _ => exact .inl ⟨calm.quiet.reported, calm.isUp⟩
  | @heard f u taken calm =>
    have same : u.reported = s.reported := by
      rw [Session.reported, taken.past]
      rfl
    exact .inl ⟨calm.quiet.reported.trans same, calm.isUp.trans taken.isUp⟩
  | @left f u taken up ended =>
    have same : u.expecting.reported = s.reported := by
      have past : u.expecting.past = .notice .remoteReconnecting :: .received f :: s.past :=
        congrArg _ taken.past
      rw [Session.reported, past]
      rfl
    have listens : u.expecting.holding.listener ≠ .absent := by
      change u.holding.listener ≠ .absent
      rwa [taken.listener]
    exact .inr (.inr ⟨taken.isUp.symm.trans up, ended.isUp, .expected,
      same ▸ ended.reported listens⟩)
  | entered down entered => exact .inr (.inl ⟨down, entered.isUp, entered.reported heard⟩)
  | ended expected up ended =>
    exact .inr (.inr ⟨up, ended.isUp, _, ended.reported heard⟩)

theorem Kind.inTurn {s t : Session κ η} (kind : Kind s t) (heard : s.holding.listener ≠ .absent)
    (h : InTurn s) : InTurn t := by
  rcases kind.reported heard with ⟨same, link⟩ | ⟨down, up, eq⟩ | ⟨up, down, cause, eq⟩
  · rwa [InTurn, same, link]
  · rw [InTurn, down] at h
    simp [InTurn, eq, up, Lifecycle.turn, h]
  · rw [InTurn, up] at h
    cases cause <;> simp [InTurn, eq, down, Lifecycle.turn, h, Cause.lifecycle]

theorem Kind.spoiled {s t : Session κ η} (kind : Kind s t) (heard : s.holding.listener ≠ .absent)
    (h : Spoiled s) : Spoiled t := by
  rcases kind.reported heard with ⟨same, -⟩ | ⟨-, -, eq⟩ | ⟨-, -, cause, eq⟩
  · rwa [Spoiled, same]
  · exact h.cons eq
  · exact h.cons eq

/-- Everybody who was let in found things as `P` says, given the journal until then. -/
def Welcomed (P : Journal η → Memory η → Prop) (s : Session κ η) : Prop :=
  ∀ before kept after, s.journal = before ++ .letIn kept :: after → P before kept

namespace Welcomed

variable {P : Journal η → Memory η → Prop} {s t : Session κ η}

omit [Channel κ] in
theorem lonely {es : Journal η} (h : Welcomed P s) (journal : t.journal = s.journal ++ es)
    (lonely : es.Lonely) : Welcomed P t := by
  intro before kept after split
  rw [journal] at split
  obtain ⟨after', split⟩ := Journal.letIn_before lonely split
  exact h before kept after' split

omit [Channel κ] in
theorem entered (h : Welcomed P s) (entered : Entered s t) (newest : P s.journal s.memory) :
    Welcomed P t := by
  obtain ⟨es, silent, journal⟩ := entered.journal
  rw [← List.singleton_append, ← List.append_assoc] at journal
  intro before kept after split
  rw [journal] at split
  obtain ⟨after', split⟩ := Journal.letIn_before silent.lonely split
  -- the entrance is the last event that is left, or it came before
  rcases List.eq_nil_or_concat after' with rfl | ⟨after', e, rfl⟩
  · obtain ⟨rfl, eq⟩ := List.append_inj' split rfl
    cases eq
    exact newest
  · rw [List.concat_eq_append, ← List.cons_append, ← List.append_assoc] at split
    exact h before kept after' (List.append_inj_left' split rfl)

theorem kind (h : Welcomed P s) (kind : Kind s t) (settled : Settled s)
    (follows : ∀ before kept, kept.Follows before.lastEnd → P before kept) : Welcomed P t := by
  obtain ⟨es, journal, -, lonely | ⟨down, newcomer⟩⟩ := kind.journal settled.sound
  · exact h.lonely journal lonely
  · exact h.entered newcomer (follows _ _ (settled.follows down))

end Welcomed

/-- A runtime was let in on top of another. -/
def Crowded (deeds : List (Deed κ η)) : Prop := ∃ d ∈ deeds, d.Usurps

theorem crowded_cons (d : Deed κ η) (deeds : List (Deed κ η)) :
    Crowded (d :: deeds) ↔ d.Usurps ∨ Crowded deeds := by
  simp [Crowded]

variable [Host η]

theorem Path.listener {s t : Session κ η} (path : Path s t) :
    t.holding.listener = s.holding.listener := by
  refine path.keeps (I := fun u => u.holding.listener = s.holding.listener) ?_ rfl
  exact fun u v move same => move.kind.listener.trans same

/-- A law of moves, while somebody listens. -/
theorem Path.heard {I : Session κ η → Prop} {s t : Session κ η} (path : Path s t)
    (heard : s.holding.listener ≠ .absent)
    (step : ∀ u v, Kind u v → u.holding.listener ≠ .absent → I u → I v) (start : I s) : I t := by
  refine (path.keeps (I := fun u => u.holding.listener ≠ .absent ∧ I u) ?_ ⟨heard, start⟩).2
  rintro u v move ⟨heard, h⟩
  exact ⟨move.kind.listener.symm ▸ heard, step u v move.kind heard h⟩

theorem Run.turns {deeds : List (Deed κ η)} {s : Session κ η} (run : Run deeds s)
    (heard : s.holding.listener ≠ .absent) :
    (¬ Crowded deeds → InTurn s) ∧ (Crowded deeds → Spoiled s) := by
  induction run with
  | @made settings listener channel host closed =>
    have fresh : Fresh (make settings listener channel host) :=
      fresh_make settings listener host closed
    have status := congrArg Memory.status fresh.memory
    refine ⟨fun _ => ?_, fun ⟨d, mem, _⟩ => by cases mem⟩
    rw [InTurn, fresh.reported heard]
    exact congrArg (fun status => some status.isUp) status.symm
  | @did deeds s t run patience act h ih =>
    rw [crowded_cons]
    rcases perform_cases h with ⟨peaceful, path⟩ | ⟨usurps, u, still, entered⟩
    · have heard : s.holding.listener ≠ .absent := path.listener ▸ heard
      simp only [peaceful, false_or]
      exact ⟨fun calm => path.heard heard (fun _ _ => Kind.inTurn) ((ih heard).1 calm),
        fun crowded => path.heard heard (fun _ _ => Kind.spoiled) ((ih heard).2 crowded)⟩
    · rw [entered.listener, still.listener] at heard
      refine ⟨fun calm => absurd (.inl usurps) calm, fun _ => ?_⟩
      have reported : t.reported = .connected :: s.reported := by
        rw [entered.reported (still.listener.symm ▸ heard), still.quiet.reported]
      by_cases crowded : Crowded deeds
      · exact ((ih heard).2 crowded).cons reported
      · have turn : Lifecycle.turn s.reported = some true := usurps.up ▸ (ih heard).1 crowded
        exact ⟨by simp [reported], by simp [reported, Lifecycle.turn, turn]⟩
  | passed _ h peer ih => exact ih heard

/-- Whoever was let in, unless on top of another, found what the end before has left. -/
theorem Run.welcomed [LawfulChannel κ] {deeds : List (Deed κ η)} {s : Session κ η}
    (run : Run deeds s) : s.Welcomed fun before kept =>
      kept.Follows before.lastEnd ∨ ∃ d ∈ deeds, d.Usurps ∧ kept = d.found.memory := by
  induction run with
  | @made settings listener channel host closed =>
    have fresh : Fresh (make settings listener channel host) :=
      fresh_make settings listener host closed
    intro before kept after split
    have mem : Event.letIn kept ∈ (make settings listener channel host).journal := by simp [split]
    exact absurd mem (fresh.silent.lonely kept)
  | @did deeds s t run patience act h ih =>
    have older : s.Welcomed fun before kept => kept.Follows before.lastEnd ∨
        ∃ d ∈ ⟨act, s⟩ :: deeds, d.Usurps ∧ kept = d.found.memory := by
      intro before kept after split
      refine (ih before kept after split).imp_right fun ⟨d, mem, usurps⟩ => ?_
      exact ⟨d, List.mem_cons_of_mem _ mem, usurps⟩
    rcases perform_cases h with ⟨-, path⟩ | ⟨usurps, u, still, entered⟩
    · have both := path.keeps (I := fun v => Settled v ∧ v.Welcomed _) ?_ ⟨run.settled, older⟩
      · exact both.2
      · exact fun v w move ⟨settled, welcomed⟩ =>
          ⟨move.kind.settled settled, welcomed.kind move.kind settled fun _ _ => .inl⟩
    · obtain ⟨es, silent, journal⟩ := still.quiet.journal
      have waiting := older.lonely journal silent.lonely
      exact waiting.entered entered (.inr ⟨_, List.mem_cons_self, usurps, still.memory⟩)
  | passed _ h peer ih => exact ih

/-- The reports of a run are in turn exactly if nobody was let in on top of another. Whoever was
let in otherwise found what the end before has left: nothing, unless that end was expected. -/
theorem takeTurns_iff_not_crowded [LawfulChannel κ] {deeds : List (Deed κ η)} {s : Session κ η}
    (run : Run deeds s) :
    (s.holding.listener ≠ .absent →
      (Lifecycle.TakeTurns s.journal.lifecycles ↔ ¬ Crowded deeds)) ∧
    (∀ (before : Journal η) kept after, s.journal = before ++ .letIn kept :: after →
      kept.Follows before.lastEnd ∨ ∃ d ∈ deeds, d.Usurps ∧ kept = d.found.memory) := by
  refine ⟨fun heard => ?_, run.welcomed⟩
  obtain ⟨inTurn, spoiled⟩ := run.turns heard
  rw [Lifecycle.takeTurns_iff, lifecycles_journal, List.reverse_reverse]
  constructor
  · rintro ⟨lasting, turn⟩ crowded
    rw [(spoiled crowded).2] at turn
    cases turn
  · exact fun calm => ⟨_, inTurn calm⟩

/-- Two runtimes at the door. The first registers a callback and starts. -/
def couple : Scripted.Wire :=
  { peers := [.visit [.frame ⟨Opcode.registerCall, [79, 110, 70, 111, 111, 0]⟩,
      .frame ⟨Opcode.start, []⟩], .visit []] }

/-- As long as the first one stays, all is in turn. -/
theorem takeTurns_couple : ∃ s : Session Scripted.Wire Scripted.Catalog,
    (rehearsal couple).tick 9 = some s ∧ Lifecycle.TakeTurns s.journal.lifecycles := by
  obtain ⟨t, ticked⟩ := Option.isSome_iff_exists.mp
    (by decide : ((rehearsal couple).tick 9).isSome = true)
  have run : Run [⟨.tick, rehearsal couple⟩] t := (run_rehearsal rfl).did 9 .tick ticked
  have heard : ((rehearsal couple).tick 9).all (·.holding.listener ≠ .absent) = true := by decide
  rw [ticked, Option.all_some, decide_eq_true_eq] at heard
  have calm : ¬ Crowded [⟨.tick, rehearsal couple⟩] := by
    rintro ⟨d, mem, usurps⟩
    cases List.mem_singleton.mp mem
    exact nomatch usurps.act
  exact ⟨t, ticked, ((takeTurns_iff_not_crowded run).1 heard).mpr calm⟩

/-- The channel loses its runtime, and nobody knows. -/
def bereft (wire : Scripted.Wire) : Scripted.Wire := { wire with connected := false }

/-- When a tick has seen the first runtime start, and the channel loses it, the host's connect lets
the second one in: two connections and no end, and what the first one registered is still there. -/
theorem exists_crowded : ∃ deeds, ∃ s : Session Scripted.Wire Scripted.Catalog, Run deeds s ∧
    s.journal.lifecycles = [.starting, .connected, .connected] ∧
    ¬ Lifecycle.TakeTurns s.journal.lifecycles ∧ s.journal.lastEnd.isNone = true ∧
    s.status.started = true ∧ s.callbacks.length = 1 := by
  obtain ⟨t, ticked⟩ := Option.isSome_iff_exists.mp
    (by decide : ((rehearsal couple).tick 9).isSome = true)
  have shown : ((rehearsal couple).tick 9).all (fun t =>
      let s := (t.rewired bereft).connect.2
      decide (s.journal.lifecycles = [.starting, .connected, .connected]) &&
        !decide (Lifecycle.TakeTurns s.journal.lifecycles) && s.journal.lastEnd.isNone &&
        s.status.started && decide (s.callbacks.length = 1)) = true := by decide
  have run : Run [⟨.connect, t.rewired bereft⟩, ⟨.tick, rehearsal couple⟩]
      (t.rewired bereft).connect.2 := by
    have first : Run [⟨.tick, rehearsal couple⟩] t := (run_rehearsal rfl).did 9 .tick ticked
    have left : Run [⟨.tick, rehearsal couple⟩] (t.rewired bereft) :=
      first.rewired (by simp [bereft])
    exact left.did 0 .connect rfl
  rw [ticked] at shown
  simp only [Option.all_some, Bool.and_eq_true, decide_eq_true_eq, Bool.not_eq_true',
    decide_eq_false_iff_not] at shown
  obtain ⟨⟨⟨⟨reports, turns⟩, last⟩, started⟩, callbacks⟩ := shown
  exact ⟨_, _, run, reports, turns, last, started, callbacks⟩

end Session

end HostLink
