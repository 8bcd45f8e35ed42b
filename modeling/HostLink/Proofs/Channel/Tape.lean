import HostLink.Proofs.Channel.Supply

/-!
# HostLink.Proofs.Channel.Tape

What has passed over a channel. Each operation may leave a mark: a peer was let in, a frame was
given, a frame was taken or refused, the channel was closed (`Channel.Leaves`). The marks of
operations done one after the other make up a tape (`Channel.Tape`).

* `Channel.Tape.later` — a tape leads to a later channel.
* `Scripted.Wire.tape_script` — on a scripted channel, what was given is what the script says, in
  its order, and none of it twice.
* `Scripted.Wire.tape_disconnects` — such a channel counts how often it was closed.
-/

namespace HostLink

namespace Channel

/-- What an operation of a channel leaves behind. -/
inductive Mark where
  | letIn
  | gave (f : Frame)
  | took (f : Frame)
  | refused (f : Frame)
  | closed
  deriving DecidableEq, Repr

def Mark.gave? : Mark → Option Frame
  | .gave f => some f
  | _ => none

variable {κ : Type} [Channel κ]

/-- An operation with what it leaves behind. Nothing is left by making ready, by a try to let a peer
in to which none comes, and by a look that finds no frame. -/
inductive Leaves : κ → List Mark → κ → Prop where
  | setup (c : κ) : Leaves c [] (Channel.setup c).2
  | letIn {c d : κ} (h : Channel.connect c = (.ok true, d)) : Leaves c [.letIn] d
  | alone {c d : κ} {r : Except Fault Bool} (h : Channel.connect c = (r, d))
      (nobody : r ≠ .ok true) : Leaves c [] d
  | gave {c d : κ} {f : Frame} (h : Channel.receive c = (.frame f, d)) : Leaves c [.gave f] d
  | bare {c d : κ} {r : Received} (h : Channel.receive c = (r, d)) (bare : ∀ f, r ≠ .frame f) :
      Leaves c [] d
  | took {c d : κ} {f : Frame} (h : Channel.send f c = (.ok (), d)) : Leaves c [.took f] d
  | refused {c d : κ} {f : Frame} {e : Fault} (h : Channel.send f c = (.error e, d)) :
      Leaves c [.refused f] d
  | closed (c : κ) : Leaves c [.closed] (Channel.disconnect c)

/-- What operations leave behind that are done one after the other. -/
inductive Tape : κ → List Mark → κ → Prop where
  | nil (c : κ) : Tape c [] c
  | snoc {c d e : κ} {ms ns : List Mark} (before : Tape c ms d) (last : Leaves d ns e) :
      Tape c (ms ++ ns) e

theorem Leaves.tape {c d : κ} {ms : List Mark} (leaves : Leaves c ms d) : Tape c ms d :=
  .snoc (.nil c) leaves

theorem Tape.append {c d e : κ} {ms ns : List Mark} (first : Tape c ms d) (rest : Tape d ns e) :
    Tape c (ms ++ ns) e := by
  induction rest with
  | nil => simpa using first
  | snoc _ last ih =>
    rw [← List.append_assoc]
    exact ih.snoc last

theorem next_connect {c d : κ} {r : Except Fault Bool} (h : Channel.connect c = (r, d)) :
    Next c d := by
  have next := Next.connect c
  rwa [h] at next

theorem next_receive {c d : κ} {r : Received} (h : Channel.receive c = (r, d)) : Next c d := by
  have next := Next.receive c
  rwa [h] at next

theorem next_send {c d : κ} {f : Frame} {r : Except Fault Unit} (h : Channel.send f c = (r, d)) :
    Next c d := by
  have next := Next.send f c
  rwa [h] at next

theorem Leaves.next {c d : κ} {ms : List Mark} (leaves : Leaves c ms d) : Next c d := by
  cases leaves with
  | setup => exact .setup c
  | letIn h => exact next_connect h
  | alone h => exact next_connect h
  | gave h => exact next_receive h
  | bare h => exact next_receive h
  | took h => exact next_send h
  | refused h => exact next_send h
  | closed => exact .disconnect c

theorem Tape.later {c d : κ} {ms : List Mark} (tape : Tape c ms d) : Later c d := by
  induction tape with
  | nil => exact .refl
  | snoc _ last ih => exact ih.tail last.next

end Channel

/-- The frame that was found, if one was. -/
def Received.frame? : Received → Option Frame
  | .frame f => some f
  | _ => none

theorem Received.frame_of_bare {r : Received} (bare : ∀ f, r ≠ .frame f) : r.frame? = none := by
  cases r with
  | frame f => exact absurd rfl (bare f)
  | _ => rfl

namespace Scripted

def Item.frame? : Item → Option Frame
  | .frame f => some f
  | _ => none

def Peer.items : Peer → List Item
  | .visit items => items
  | .fail => []
  | .refuse => []

namespace Wire

open Channel (Mark Leaves Tape)

/-- The frames that are still to come, those of later peers after those on the wire. -/
def script (w : Wire) : List Frame :=
  (w.inbound ++ w.peers.flatMap Peer.items).filterMap Item.frame?

theorem script_setup (w : Wire) : w.setup.2.script = w.script := by
  unfold setup
  split <;> rfl

theorem script_send (f : Frame) (w : Wire) : (w.send f).2.script = w.script := by
  unfold send
  split
  · rfl
  · split <;> rfl

/-- A peer brings what the script says it will. -/
theorem script_connect (w : Wire) : w.connect.2.script = w.script := by
  unfold connect
  split
  · rfl
  · split
    · rfl
    · rename_i items peers queue
      simp [script, queue, Peer.items]
    · rename_i peers queue
      simp [script, queue, Peer.items]
    · rename_i peers queue
      simp [script, queue, Peer.items]

theorem script_disconnect (w : Wire) : w.disconnect.script.Sublist w.script := by
  have kept : (w.peers.flatMap Peer.items).Sublist (w.inbound ++ w.peers.flatMap Peer.items) :=
    List.sublist_append_right _ _
  exact kept.filterMap _

theorem script_receiveDrained (w : Wire) :
    w.receiveDrained.1.frame?.toList ++ w.receiveDrained.2.script = w.script := by
  unfold receiveDrained
  split <;> rfl

/-- What a look finds is the first frame of the script. -/
theorem script_play (items : List Item) (w : Wire) :
    (w.play items).1.frame?.toList ++ (w.play items).2.script =
      Wire.script { w with inbound := items } := by
  induction items generalizing w with
  | nil => exact script_receiveDrained { w with inbound := [] }
  | cons item rest ih =>
    cases item with
    | advance ms => exact ih { w with idle := 0, clock := w.clock + ms }
    | _ => rfl

theorem script_receive (w : Wire) :
    w.receive.1.frame?.toList ++ w.receive.2.script = w.script := by
  unfold receive
  split
  · exact script_play w.inbound w
  · rfl

theorem script_leaves {w v : Wire} {ms : List Mark} (leaves : Leaves w ms v) :
    (ms.filterMap Mark.gave? ++ v.script).Sublist w.script := by
  have same {v : Wire} (h : v.script = w.script) : v.script.Sublist w.script := h ▸ .refl _
  have found {r : Received} {v : Wire} (h : w.receive = (r, v)) :
      (r.frame?.toList ++ v.script).Sublist w.script := by
    have found := script_receive w
    rw [h] at found
    exact found ▸ .refl _
  cases leaves with
  | setup => exact same (script_setup w)
  | letIn h => exact same (congrArg (script ·.2) h ▸ script_connect w)
  | alone h => exact same (congrArg (script ·.2) h ▸ script_connect w)
  | gave h => exact found h
  | bare h bare =>
    have nothing := found h
    rwa [Received.frame_of_bare bare] at nothing
  | took h => exact same (congrArg (script ·.2) h ▸ script_send _ w)
  | refused h => exact same (congrArg (script ·.2) h ▸ script_send _ w)
  | closed => exact script_disconnect w

/-- What was given, with what is still to come, is what the script says, in its order; what is
missing was given up when the channel was closed. -/
theorem tape_script {w v : Wire} {ms : List Mark} (tape : Tape w ms v) :
    (ms.filterMap Mark.gave? ++ v.script).Sublist w.script := by
  induction tape with
  | nil => exact .refl _
  | snoc _ last ih =>
    rw [List.filterMap_append, List.append_assoc]
    exact ((script_leaves last).append_left _).trans ih

theorem disconnects_receiveDrained (w : Wire) :
    w.receiveDrained.2.disconnects = w.disconnects := by
  unfold receiveDrained
  split <;> rfl

theorem disconnects_play (items : List Item) (w : Wire) :
    (w.play items).2.disconnects = w.disconnects := by
  induction items generalizing w with
  | nil => exact disconnects_receiveDrained { w with inbound := [] }
  | cons item rest ih =>
    cases item with
    | advance ms => exact ih { w with idle := 0, clock := w.clock + ms }
    | _ => rfl

theorem disconnects_leaves {w v : Wire} {ms : List Mark} (leaves : Leaves w ms v) :
    v.disconnects = w.disconnects + ms.count .closed := by
  have connected : w.connect.2.disconnects = w.disconnects := by
    unfold connect
    split
    · rfl
    · split <;> rfl
  have sent (f : Frame) : (w.send f).2.disconnects = w.disconnects := by
    unfold send
    split
    · rfl
    · split <;> rfl
  have received : w.receive.2.disconnects = w.disconnects := by
    unfold receive
    split
    · exact disconnects_play w.inbound w
    · rfl
  cases leaves with
  | setup =>
    change w.setup.2.disconnects = w.disconnects
    unfold setup
    split <;> rfl
  | letIn h => exact congrArg (·.2.disconnects) h ▸ connected
  | alone h => exact congrArg (·.2.disconnects) h ▸ connected
  | gave h => exact congrArg (·.2.disconnects) h ▸ received
  | bare h => exact congrArg (·.2.disconnects) h ▸ received
  | took h => exact congrArg (·.2.disconnects) h ▸ sent _
  | refused h => exact congrArg (·.2.disconnects) h ▸ sent _
  | closed => rfl

/-- The count goes up each time the channel is closed. -/
theorem tape_disconnects {w v : Wire} {ms : List Mark} (tape : Tape w ms v) :
    v.disconnects = w.disconnects + ms.count .closed := by
  induction tape with
  | nil => rfl
  | snoc _ last ih => rw [disconnects_leaves last, ih, List.count_append, Nat.add_assoc]

end Wire

end Scripted

end HostLink
