import HostLink.Callback.Table
import HostLink.Command
import HostLink.Scripted.Wire
import Mathlib.Data.List.Forall2

/-!
# HostLink.Proofs.Channel.Insertion

Frames that ask for nothing that could be done (`Frame.Inert`), and channels on which some of them
come in between the rest (`Insertion`). Such a channel goes along with the channel without them:
what is done to both succeeds or fails on both, and a look at the one gives what a look at the other
gives, after as many inert frames as there are (`Ripens`).

* `Scripted.Wire.insertion` — a script into which inert frames are inserted at any places.
-/

namespace HostLink

/-- A frame that asks for nothing that could be done: it has something to say or to show that there
is life, or is a malformed request for a native, or registers a callback by a record that is
rejected. -/
inductive Frame.Inert (f : Frame) : Prop where
  | print (h : f.opcode = Opcode.print)
  | alive (h : f.opcode = Opcode.alive)
  | lookup {e : Fault} (h : f.opcode = Opcode.findNative)
      (malformed : Command.decodeFindNative f.payload = .error e)
  | invocation {e : Fault} (h : f.opcode = Opcode.invokeNative)
      (malformed : Command.decodeInvokeNative f.payload = .error e)
  | registration {e : Fault} (h : f.opcode = Opcode.registerCall)
      (rejected : Callback.readRecord f.payload = .error e)

/-- What an inert frame is to a session. -/
theorem Frame.Inert.decode_cases {f : Frame} (inert : f.Inert) :
    (∃ text, Command.decode f = .ok (some (.print text))) ∨
      Command.decode f = .ok (some .alive) ∨ (∃ e, Command.decode f = .error e) ∨
      ∃ record e, Command.decode f = .ok (some (.registerCall record)) ∧
        Callback.readRecord record = .error e := by
  obtain ⟨opcode, payload⟩ := f
  cases inert with
  | print h =>
    obtain rfl : opcode = Opcode.print := h
    exact .inl ⟨_, rfl⟩
  | alive h =>
    obtain rfl : opcode = Opcode.alive := h
    exact .inr (.inl rfl)
  | @lookup e h malformed =>
    obtain rfl : opcode = Opcode.findNative := h
    have row : Command.decode ⟨Opcode.findNative, payload⟩ =
        (Command.decodeFindNative payload).map some := rfl
    exact .inr (.inr (.inl ⟨e, by rw [row, malformed]; rfl⟩))
  | @invocation e h malformed =>
    obtain rfl : opcode = Opcode.invokeNative := h
    have row : Command.decode ⟨Opcode.invokeNative, payload⟩ =
        (Command.decodeInvokeNative payload).map some := rfl
    exact .inr (.inr (.inl ⟨e, by rw [row, malformed]; rfl⟩))
  | @registration e h rejected =>
    obtain rfl : opcode = Opcode.registerCall := h
    exact .inr (.inr (.inr ⟨payload, e, rfl, rejected⟩))

section Insertion

variable {κ κ' : Type} [Channel κ] [Channel κ']

omit [Channel κ] in
/-- Looks at a channel give inert frames, as many as there are, and then `r`; what is left then is
related to `rest`. -/
inductive Ripens (rel : κ → κ' → Prop) (r : Received) (rest : κ) : κ' → Prop where
  | now {c d : κ'} (h : Channel.receive c = (r, d)) (same : rel rest d) : Ripens rel r rest c
  | inert {c d : κ'} {f : Frame} (inert : f.Inert) (h : Channel.receive c = (.frame f, d))
      (kept : Channel.isConnected d = true) (later : Ripens rel r rest d) : Ripens rel r rest c

/-- A relation between a channel and one that goes along with it, apart from inert frames that come
in between. -/
structure Insertion (κ κ' : Type) [Channel κ] [Channel κ'] where
  rel : κ → κ' → Prop
  isReady {c : κ} {c' : κ'} : rel c c' → Channel.isReady c' = Channel.isReady c
  isConnected {c : κ} {c' : κ'} : rel c c' → Channel.isConnected c' = Channel.isConnected c
  setup {c : κ} {c' : κ'} : rel c c' → (Channel.setup c').1 = (Channel.setup c).1 ∧
    rel (Channel.setup c).2 (Channel.setup c').2
  connect {c : κ} {c' : κ'} : rel c c' → (Channel.connect c').1 = (Channel.connect c).1 ∧
    rel (Channel.connect c).2 (Channel.connect c').2
  send {c : κ} {c' : κ'} (f : Frame) : rel c c' →
    (Channel.send f c').1 = (Channel.send f c).1 ∧
      rel (Channel.send f c).2 (Channel.send f c').2
  disconnect {c : κ} {c' : κ'} : rel c c' → rel (Channel.disconnect c) (Channel.disconnect c')
  receive {c : κ} {c' : κ'} : rel c c' →
    Ripens rel (Channel.receive c).1 (Channel.receive c).2 c'

omit [Channel κ] in
/-- It only matters what a look at the channel gives. -/
theorem Ripens.of_receive {rel : κ → κ' → Prop} {r : Received} {rest : κ} {c d : κ'}
    (ripens : Ripens rel r rest d) (same : Channel.receive c = Channel.receive d) :
    Ripens rel r rest c := by
  cases ripens with
  | now h rel => exact .now (same.trans h) rel
  | inert inert h kept later => exact .inert inert (same.trans h) kept later

end Insertion

namespace Scripted

/-- Inert frames are inserted among the items. -/
inductive Item.Inserted : List Item → List Item → Prop where
  | nil : Inserted [] []
  | keep {items items' : List Item} (item : Item) (h : Inserted items items') :
      Inserted (item :: items) (item :: items')
  | inert {items items' : List Item} {f : Frame} (inert : f.Inert) (h : Inserted items items') :
      Inserted items (.frame f :: items')

theorem Item.Inserted.append {is is' js js' : List Item} (h : Inserted is is')
    (h' : Inserted js js') : Inserted (is ++ js) (is' ++ js') := by
  induction h with
  | nil => exact h'
  | keep item _ ih => exact ih.keep item
  | inert inert _ ih => exact ih.inert inert

/-- Inert frames are inserted into what somebody brings. -/
inductive Peer.Inserted : Peer → Peer → Prop where
  | visit {items items' : List Item} (h : Item.Inserted items items') :
      Inserted (.visit items) (.visit items')
  | fail : Inserted .fail .fail
  | refuse : Inserted .refuse .refuse

namespace Wire

/-- Inert frames are inserted into what is on the wire and into what is at the door. The count of
attempts that found nothing, which any item begins anew, may be another one, if an item or a
newcomer comes before the next of them. -/
inductive Inserted (w : Wire) : Wire → Prop where
  | mk {items : List Item} {peers : List Peer} {idle : Nat}
      (inbound : Item.Inserted w.inbound items) (door : List.Forall₂ Peer.Inserted w.peers peers)
      (count : w.connected = false ∨ w.inbound ≠ [] ∨
        idle = w.idle ∧ (w.idle = 0 ∨ items = [])) :
      Inserted w { w with inbound := items, peers := peers, idle := idle }

/-- What is played does not depend on what else is on the wire. -/
theorem play_inbound (items others : List Item) (w : Wire) :
    Wire.play { w with inbound := others } items = w.play items := by
  induction items generalizing w with
  | nil => rfl
  | cons item items ih =>
    cases item with
    | advance ms => exact ih { w with idle := 0, clock := w.clock + ms }
    | _ => rfl

theorem ripens_play {items items' : List Item} (inserted : Item.Inserted items items') :
    ∀ (w : Wire) (peers : List Peer) (idle : Nat), w.connected = true →
      List.Forall₂ Peer.Inserted w.peers peers →
      items ≠ [] ∨ idle = w.idle ∧ (w.idle = 0 ∨ items' = []) →
      Ripens Inserted (w.play items).1 (w.play items).2
        { w with inbound := items', peers := peers, idle := idle } := by
  induction inserted with
  | nil =>
    intro w peers idle connected door count
    obtain ⟨rfl, -⟩ := count.resolve_left (by simp)
    let v : Wire := { w with inbound := [], peers := peers }
    have h : Channel.receive v = v.receiveDrained := if_pos connected
    have play : w.play [] = { w with inbound := [] }.receiveDrained := rfl
    rw [play]
    cases spent : w.dieWhenDrained || decide (w.idleLimit < w.idle + 1) with
    | true =>
      have drained : { w with inbound := [] }.receiveDrained = _ := if_pos spent
      rw [drained]
      exact .now (h.trans (if_pos spent)) (.mk .nil door (.inl rfl))
    | false =>
      have waits := ne_true_of_eq_false spent
      have drained : { w with inbound := [] }.receiveDrained = _ := if_neg waits
      rw [drained]
      have count : w.idle + 1 = w.idle + 1 ∧ (w.idle + 1 = 0 ∨ ([] : List Item) = []) :=
        ⟨rfl, .inr rfl⟩
      exact .now (h.trans (if_neg waits)) (.mk .nil door (.inr (.inr count)))
  | @keep items items' item h ih =>
    intro w peers idle connected door _
    have anew {w : Wire} (zero : w.idle = 0) : w.connected = false ∨ w.inbound ≠ [] ∨
        0 = w.idle ∧ (w.idle = 0 ∨ items' = []) := .inr (.inr ⟨zero.symm, .inl zero⟩)
    let v : Wire := { w with inbound := item :: items', peers := peers, idle := idle }
    have receive : Channel.receive v = v.play (item :: items') := if_pos connected
    cases item with
    | advance ms =>
      have passed := ih { w with idle := 0, clock := w.clock + ms } peers 0 connected door
        (.inr ⟨rfl, .inl rfl⟩)
      refine passed.of_receive (receive.trans ?_)
      have looked : Channel.receive { w with
          idle := 0, clock := w.clock + ms, inbound := items', peers := peers } = _ :=
        if_pos connected
      rw [looked]
      exact play_inbound items' (.advance ms :: items')
        { w with idle := 0, clock := w.clock + ms, inbound := items', peers := peers }
    | frame f => exact .now receive (.mk h door (anew rfl))
    | nothing => exact .now receive (.mk h door (anew rfl))
    | dead => exact .now receive (.mk h door (anew rfl))
    | deadKeep => exact .now receive (.mk h door (anew rfl))
    | vanish => exact .now receive (.mk h door (anew rfl))
  | @inert items items' f inert h ih =>
    intro w peers idle connected door count
    have later := ih w peers 0 connected door
      (count.imp_right fun ⟨_, last⟩ =>
        have zero : w.idle = 0 := last.resolve_right (by simp)
        ⟨zero.symm, .inl zero⟩)
    exact .inert inert (if_pos connected) connected later

/-- A wire goes along with one into whose script inert frames are inserted. -/
def insertion : Insertion Wire Wire where
  rel := Inserted
  isReady h := by cases h; rfl
  isConnected h := by cases h; rfl
  setup {w _} h := by
    cases h with
    | mk inbound door count =>
      simp only [Channel.setup, setup]
      split
      · exact ⟨rfl, .mk inbound door count⟩
      · exact ⟨rfl, .mk inbound door count⟩
  connect {w _} h := by
    cases h with
    | @mk items peers idle inbound door count =>
      simp only [Channel.connect, connect]
      split
      · exact ⟨rfl, .mk inbound door count⟩
      · have others := door
        generalize queue : w.peers = before at door ⊢
        cases door with
        | nil => exact ⟨rfl, .mk inbound others count⟩
        | cons first rest =>
          cases first with
          | visit brought =>
            exact ⟨rfl, .mk (inbound.append brought) rest (.inr (.inr ⟨rfl, .inl rfl⟩))⟩
          | fail => exact ⟨rfl, .mk inbound rest count⟩
          | refuse => exact ⟨rfl, .mk inbound rest count⟩
  send {w _} f h := by
    cases h with
    | mk inbound door count =>
      simp only [Channel.send, send]
      split
      · exact ⟨rfl, .mk inbound door count⟩
      · split
        · cases drop : w.sendDrop with
          | true => exact ⟨rfl, .mk inbound door (.inl rfl)⟩
          | false => exact ⟨rfl, .mk inbound door (.inr (count.resolve_left (by simp_all)))⟩
        · exact ⟨rfl, .mk inbound door count⟩
  disconnect h := by
    cases h with
    | mk inbound door count => exact .mk .nil door (.inl rfl)
  receive {w _} h := by
    cases h with
    | @mk items peers idle inbound door count =>
      by_cases connected : w.connected = true
      · have receive : Channel.receive w = w.play w.inbound := if_pos connected
        rw [receive]
        exact ripens_play inbound w peers idle connected door
          (count.resolve_left (by simp [connected]))
      · have receive : Channel.receive w = (.dead, w) := if_neg connected
        rw [receive]
        exact .now (if_neg connected) (.mk inbound door count)

end Wire

end Scripted

end HostLink
