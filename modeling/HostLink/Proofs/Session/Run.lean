import HostLink.Proofs.Session.Kind
import HostLink.Scripted.Catalog

/-!
# HostLink.Proofs.Session.Run

The life of a session in the hands of its host. A run begins with a new session over a channel
without a connection; then the host connects, ticks, calls, disconnects and terminates in any
order, and in between the world may do what it likes with the host and with the channel, except
connect it (`Run`). A run keeps track of what the host did and of the session it found each time.

* `perform_cases` — what the host does is a path of moves, or lets a runtime in under a link that is
  still up (`Deed.Usurps`), which only the host's own connect does.
* `Run.keeps`     — a law of all moves that survives this too is kept by every run.
-/

namespace HostLink.Session

variable {κ η : Type} [Channel κ]

/-- What a new session is like. -/
structure Fresh (s : Session κ η) : Prop where
  memory : s.memory = ⟨.initial, .empty, .empty⟩
  idle : s.delivering = false
  past : ∃ es : Journal η, es.Quiet ∧ s.past = es ++ s.told .starting
  closed : LawfulChannel κ → Channel.isConnected s.channel = false

theorem fresh_make (settings : SessionSettings) (listener : Listener) {channel : κ} (host : η)
    (closed : Channel.isConnected channel = false) :
    Fresh (make settings listener channel host : Session κ η) := by
  let blank : Session κ η :=
    { settings, channel, host
      status := .initial
      natives := .empty
      callbacks := .empty
      detector := .initial settings.pause
      holding := .initial listener
      delivering := false
      lent := false
      past := [] }
  let started := blank.signal .starting
  have eq : make settings listener channel host = (started.setUp .firstSetupFailed).2 := rfl
  have ready : Still started (started.setUp .firstSetupFailed).2 := still_setUp _ started
  have idle : (started.setUp .firstSetupFailed).2.delivering = false := by
    unfold setUp
    split <;> rfl
  obtain ⟨fs, quietF, past⟩ := signal_past .starting blank
  obtain ⟨es, readyPast, quietE⟩ := ready.quiet
  have told : (make settings listener channel host).told .starting = blank.told .starting := by
    rw [eq]
    unfold Session.told
    rw [ready.listener, signal_listener]
  refine ⟨by rw [eq]; exact ready.memory, by rw [eq]; exact idle,
    ⟨es ++ fs, by simp [quietE, quietF], ?_⟩, fun lawful => ?_⟩
  · rw [told, eq, readyPast, past, List.append_assoc]
    simp [Session.told, blank]
  · refine eq_false_of_ne_true fun held => ?_
    rw [eq] at held
    have opened : Channel.isConnected channel = true := ready.peer lawful held
    rw [closed] at opened
    cases opened

variable [Host η]

/-- What a host does with a session. -/
inductive Act where
  | connect
  | tick
  | call (caller : UInt16) (name : String) (params : List Callback.Param)
  | disconnect (context : Option String) (expected : Bool)
  | terminate (context : String)

/-- The session after what the host did; `none` when the patience ran out. -/
def perform (patience : Nat) (act : Act) (s : Session κ η) : Option (Session κ η) :=
  match act with
  | .connect => some s.connect.2
  | .tick => s.tick patience
  | .call caller name params => (s.call patience caller name params).map Prod.snd
  | .disconnect context expected => some (s.disconnect context expected)
  | .terminate context => some (s.terminate context)

/-- A conduct that may let a runtime in at any time contains whatever the host does. -/
theorem Conduct.perform {R : Session κ η → Session κ η → Prop} (conduct : Conduct R)
    (entered : ∀ {s : Session κ η} {c : κ}, Channel.connect s.channel = (.ok true, c) →
      R s (s.takeIn c))
    {patience : Nat} {act : Act} {s t : Session κ η} (h : s.perform patience act = some t) :
    R s t := by
  cases act with
  | connect =>
    cases h
    by_cases connected : Channel.isConnected s.channel = true
    · exact (conduct.connect (.inl connected)).1
    · rcases conduct.connect_cases (eq_false_of_ne_true connected) with
        ⟨-, led⟩ | ⟨c, prepared, -, came, eq⟩
      · exact led
      · rw [eq]
        dsimp only
        exact conduct.trans prepared (entered came)
  | tick =>
    simp only [Session.perform] at h
    exact conduct.tick h
  | call caller name params =>
    simp only [Session.perform] at h
    obtain ⟨⟨value, u⟩, called, rfl⟩ := Option.map_eq_some_iff.mp h
    exact conduct.call called
  | disconnect context expected =>
    cases h
    exact conduct.disconnect context expected s
  | terminate context =>
    cases h
    exact conduct.disconnect (some context) false s

/-- Something that the host did, and the session that it found. -/
structure Deed (κ η : Type) where
  act : Act
  found : Session κ η

/-- A run with the deeds of the host, latest first, that has led to a session. -/
inductive Run : List (Deed κ η) → Session κ η → Prop where
  | made (settings : SessionSettings) (listener : Listener) {channel : κ} (host : η)
      (fresh : Channel.isConnected channel = false) : Run [] (make settings listener channel host)
  | did {deeds : List (Deed κ η)} {s t : Session κ η} (run : Run deeds s) (patience : Nat)
      (act : Act) (h : s.perform patience act = some t) : Run (⟨act, s⟩ :: deeds) t
  | passed {deeds : List (Deed κ η)} {s : Session κ η} (run : Run deeds s) {c : κ} (h : η)
      (peer : Channel.isConnected c = true → Channel.isConnected s.channel = true) :
      Run deeds { s with channel := c, host := h }

/-- A session that some run leads to. -/
def Reachable (s : Session κ η) : Prop := ∃ deeds, Run deeds s

/-- The host connected under a link that was still up, and somebody was let in. -/
structure Deed.Usurps (d : Deed κ η) : Prop where
  act : d.act = .connect
  up : d.found.status.isUp = true
  lost : Channel.isConnected d.found.channel = false
  came : (d.found.connect).1 = true

theorem perform_cases {patience : Nat} {act : Act} {s t : Session κ η}
    (h : s.perform patience act = some t) :
    (¬ Deed.Usurps ⟨act, s⟩ ∧ Path s t) ∨
      (Deed.Usurps ⟨act, s⟩ ∧ ∃ u, Still s u ∧ Entered u t) := by
  cases act with
  | connect =>
    cases h
    by_cases sound : Channel.isConnected s.channel = true ∨ s.status.isUp = false
    · refine .inl ⟨fun usurps => ?_, (conduct_path.connect sound).1⟩
      rcases sound with connected | down
      · exact absurd connected (by simp [usurps.lost])
      · exact absurd usurps.up (by simp [down])
    · obtain ⟨lost, up⟩ := not_or.mp sound
      have lost := eq_false_of_ne_true lost
      have up : s.status.isUp = true := by simpa using up
      rcases conduct_path.connect_cases lost with ⟨alone, path⟩ | ⟨c, -, -, -, eq⟩
      · exact .inl ⟨fun usurps => absurd usurps.came (by simp [alone]), path⟩
      · have entered : Entered s.prepare.2 s.connect.2 := by
          rw [eq]
          dsimp only
          exact entered_takeIn c s.prepare.2
        exact .inr ⟨⟨rfl, up, lost, by rw [eq]⟩, s.prepare.2, still_prepare s, entered⟩
  | tick =>
    simp only [perform] at h
    exact .inl ⟨fun usurps => (nomatch usurps.act), conduct_path.tick h⟩
  | call caller name params =>
    simp only [perform] at h
    obtain ⟨⟨value, u⟩, called, rfl⟩ := Option.map_eq_some_iff.mp h
    exact .inl ⟨fun usurps => (nomatch usurps.act), conduct_path.call called⟩
  | disconnect context expected =>
    cases h
    exact .inl ⟨fun usurps => (nomatch usurps.act), conduct_path.disconnect context expected s⟩
  | terminate context =>
    cases h
    exact .inl ⟨fun usurps => (nomatch usurps.act), conduct_path.disconnect (some context) false s⟩

/-- A law of new sessions that moves, newcomers and the world keep holds in every run. -/
theorem Run.keeps {I : Session κ η → Prop}
    (made : ∀ settings listener channel host, Channel.isConnected channel = false →
      I (make settings listener channel host))
    (move : ∀ s t, Move s t → I s → I t) (entered : ∀ s t, Entered s t → I t)
    (passed : ∀ s c h, (Channel.isConnected c = true → Channel.isConnected s.channel = true) →
      I s → I { s with channel := c, host := h })
    {deeds : List (Deed κ η)} {s : Session κ η} (run : Run deeds s) : I s := by
  induction run with
  | made settings listener host fresh => exact made settings listener _ host fresh
  | did _ patience act h ih =>
    rcases perform_cases h with ⟨-, path⟩ | ⟨-, u, -, newcomer⟩
    · exact path.keeps move ih
    · exact entered _ _ newcomer
  | passed _ h peer ih => exact passed _ _ h peer ih

/-- Over a lawful channel, whoever is connected at the end of a run has the link up. -/
theorem Run.sound [LawfulChannel κ] {deeds : List (Deed κ η)} {s : Session κ η}
    (run : Run deeds s) : s.Sound := by
  refine run.keeps ?_ (fun _ _ move => move.kind.sound) ?_ ?_
  · intro settings listener channel host closed connected
    rw [(fresh_make settings listener host closed).closed inferInstance] at connected
    cases connected
  · exact fun s t entered _ => entered.isUp
  · intro s c h peer sound connected
    exact sound (peer connected)

/-- A session over a scripted channel, with a host that has no natives. -/
def rehearsal (wire : Scripted.Wire) : Session Scripted.Wire Scripted.Catalog :=
  make {} .full wire { natives := [] }

theorem run_rehearsal {wire : Scripted.Wire} (closed : wire.connected = false) :
    Run [] (rehearsal wire) :=
  .made {} .full ({ natives := [] } : Scripted.Catalog) closed

/-- A session over a scripted channel when its host has ticked. -/
def ticked (settings : SessionSettings) (wire : Scripted.Wire) (catalog : Scripted.Catalog) :
    Option (Session Scripted.Wire Scripted.Catalog) :=
  (make settings .full wire catalog).tick 9

theorem reachable_ticked {settings : SessionSettings} {wire : Scripted.Wire}
    {catalog : Scripted.Catalog} {s : Session Scripted.Wire Scripted.Catalog}
    (closed : wire.connected = false) (h : ticked settings wire catalog = some s) :
    Reachable s := by
  have made : Run [] (make settings .full wire catalog) := .made settings .full catalog closed
  exact ⟨_, made.did 9 .tick h⟩

/-- The session when something has happened to its channel. -/
def rewired (change : Scripted.Wire → Scripted.Wire)
    (s : Session Scripted.Wire Scripted.Catalog) : Session Scripted.Wire Scripted.Catalog :=
  { s with channel := change s.channel }

theorem Run.rewired {deeds : List (Deed Scripted.Wire Scripted.Catalog)}
    {s : Session Scripted.Wire Scripted.Catalog} (run : Run deeds s)
    {change : Scripted.Wire → Scripted.Wire}
    (peer : (change s.channel).connected = true → s.channel.connected = true) :
    Run deeds (s.rewired change) :=
  run.passed s.host peer

/-- The host has let a runtime in, and has begun; then something comes in. -/
def launched (wire : Scripted.Wire) (items : List Scripted.Item) :
    Option (Session Scripted.Wire Scripted.Catalog) :=
  (((rehearsal wire).tick 9).bind (·.call 9 0 "OnGameModeInit" [])).map fun r =>
    r.2.rewired fun wire => { wire with inbound := items }

theorem reachable_launched {wire : Scripted.Wire} {items : List Scripted.Item}
    {s : Session Scripted.Wire Scripted.Catalog} (closed : wire.connected = false)
    (h : launched wire items = some s) : Reachable s := by
  obtain ⟨r, called, rfl⟩ := Option.map_eq_some_iff.mp h
  obtain ⟨t, ticked, called⟩ := Option.bind_eq_some_iff.mp called
  have first := (run_rehearsal closed).did 9 .tick ticked
  have second := first.did 9 (.call 0 "OnGameModeInit" [])
    (by rw [perform, called, Option.map_some])
  exact ⟨_, second.rewired fun connected => connected⟩

end HostLink.Session
