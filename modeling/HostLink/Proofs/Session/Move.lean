import HostLink.Proofs.Session.Conduct
import Mathlib.Logic.Relation

/-!
# HostLink.Proofs.Session.Move

Whatever a tick, a call or a wait does is a sequence of moves. A move is what the session does
without looking at the channel a second time, with the circumstances under which it does it
(`Move`). Paths of moves are a conduct (`conduct_path`), so that an operation that ends has made
one, however its waits were nested.

A law that every move keeps is therefore kept by every operation.
-/

namespace HostLink.Session

variable {κ η : Type} [Channel κ] [Host η]

/-- One move of a session. -/
inductive Move : Session κ η → Session κ η → Prop where
  | prepared {s : Session κ η} (lost : Channel.isConnected s.channel = false) : Move s s.prepare.2
  | alone {s : Session κ η} {c : κ} (h : Channel.connect s.channel = (.ok false, c)) :
      Move s { s with channel := c }
  | failed {s : Session κ η} {c : κ} {e : Fault} (h : Channel.connect s.channel = (.error e, c)) :
      Move s ({ s with channel := c }.note (.connectFailed e))
  | entered {s : Session κ η} {c : κ} (down : s.status.isUp = false)
      (h : Channel.connect s.channel = (.ok true, c)) : Move s (s.takeIn c)
  | ended {s : Session κ η} {context : Option String} {expected : Bool}
      (up : s.status.isUp = true) : Move s (s.disconnect context expected)
  | idle {s : Session κ η} {c : κ} {r : Received} (tuned : s.Tuned)
      (h : Channel.receive s.channel = (r, c)) (bare : ∀ f, r ≠ .frame f) :
      Move s { s with channel := c }
  | served {s t : Session κ η} {c : κ} {f : Frame} {step : Step} (tuned : s.Tuned)
      (h : Channel.receive s.channel = (.frame f, c))
      (served : Served f ({ s with channel := c }.hear f) step t) : Move s t
  | asked {s : Session κ η} {c : κ} {f : Frame} {payload : Bytes} (tuned : s.Tuned)
      (h : Channel.receive s.channel = (.frame f, c))
      (asks : Asks f payload ({ s with channel := c }.hear f)) :
      Move s (({ s with channel := c }.hear f).asking payload)
  | resumed {s : Session κ η} (reply : Option Bytes) : Move s (s.resumed reply)
  | strayed {s : Session κ η} (size : Nat) : Move s (s.note (.strayReply size))
  | beaten {s : Session κ η} (connected : s.isConnected = true)
      (allowed : s.status.allows .heartbeat = true) : Move s (s.setHolding false).beat
  | observed {s : Session κ η} (name : String) : Move s (s.observe name)
  | gated {s : Session κ η} (name : String) : Move s (s.gate name).2
  | unforwarded {s : Session κ η} (name : String) (e : Fault) :
      Move s (s.note (.notForwarded name e))
  | called {s : Session κ η} (payload : Bytes) (connected : s.isConnected = true)
      (allowed : s.status.allows .call = true) (init : s.status.clientInit = true) :
      Move s (s.send Opcode.publicCall payload)
  | silent {s : Session κ η} (name : String) (reply : Option Bytes) :
      Move s (s.noteSilence name reply)

/-- Any number of moves. -/
abbrev Path : Session κ η → Session κ η → Prop := Relation.ReflTransGen Move

/-- A law that every move keeps is kept on every path. -/
theorem Path.keeps {I : Session κ η → Prop} (step : ∀ s t, Move s t → I s → I t)
    {s t : Session κ η} (path : Path s t) (start : I s) : I t := by
  induction path with
  | refl => exact start
  | tail _ move ih => exact step _ _ move ih

/-! ## Operations are paths -/

theorem conduct_path : Conduct (Path : Session κ η → Session κ η → Prop) where
  refl _ := .refl
  trans := .trans
  prepared lost := .single (.prepared lost)
  alone h := .single (.alone h)
  failed h := .single (.failed h)
  entered down h := .single (.entered down h)
  ended up := .single (.ended up)
  idle tuned h bare := .single (.idle tuned h bare)
  served tuned h served := .single (.served tuned h served)
  asked {s u c f payload} tuned h asks waited reply := by
    have asked : Path s (({ s with channel := c }.hear f).asking payload) :=
      .single (.asked tuned h asks)
    exact (asked.trans waited).tail (.resumed reply)
  strayed size _ := .single (.strayed size)
  beaten connected allowed := .single (.beaten connected allowed)
  observed name _ := .single (.observed name)
  gated name _ := .single (.gated name)
  unforwarded name e _ := .single (.unforwarded name e)
  called {r s caller name params payload} opened _ := by
    obtain ⟨connected, allowed, init⟩ := gate_open opened
    exact .single (.called payload connected allowed init)
  silent name reply _ := .single (.silent name reply)

end HostLink.Session
