import HostLink.Scripted.Wire
import Mathlib.Logic.Relation

/-!
# HostLink.Proofs.Channel.Supply

How much a channel can still deliver. Whatever is done with a channel, in any order and whether it
succeeds or not, leads to a later one (`Channel.Later`). A look that finds a frame, or that nothing
has come, is a delivery; one that finds the channel dead is not. The supply of a channel is limited
if there is no end of operations with deliveries among them again and again (`Channel.Limited`).

* `Channel.limited_of_measure` — a number that no operation raises and every delivery lowers.
* `Scripted.Wire.limited` — whatever the script, finitely many peers come and each brings finitely
  many items, after which the connection may be silent for a while and dies.
-/

namespace HostLink

namespace Channel

variable {κ : Type} [Channel κ]

/-- An operation on a channel. -/
inductive Next : κ → κ → Prop where
  | setup (c : κ) : Next c (Channel.setup c).2
  | connect (c : κ) : Next c (Channel.connect c).2
  | send (f : Frame) (c : κ) : Next c (Channel.send f c).2
  | receive (c : κ) : Next c (Channel.receive c).2
  | disconnect (c : κ) : Next c (Channel.disconnect c)

/-- Any number of operations. -/
abbrev Later : κ → κ → Prop := Relation.ReflTransGen Next

/-- A delivery lies between the second and the first. -/
def Spent (c' c : κ) : Prop :=
  ∃ d, Later c d ∧ (Channel.receive d).1 ≠ .dead ∧ Later (Channel.receive d).2 c'

/-- Whatever is done with the channel, at some time it has made its last delivery. -/
def Limited (c : κ) : Prop := Acc Spent c

theorem Spent.before {c d e : κ} (later : Later c d) (spent : Spent e d) : Spent e c := by
  obtain ⟨m, reached, alive, rest⟩ := spent
  exact ⟨m, later.trans reached, alive, rest⟩

theorem Limited.spent {c d : κ} (limited : Limited c) (spent : Spent d c) : Limited d :=
  limited.inv spent

theorem Limited.later {c d : κ} (limited : Limited c) (later : Later c d) : Limited d := by
  constructor
  intro e spent
  exact limited.spent (spent.before later)

/-- A number that no operation raises and every delivery lowers bounds the deliveries. -/
theorem limited_of_measure (rank : κ → Nat) (keeps : ∀ c d : κ, Next c d → rank d ≤ rank c)
    (lowers : ∀ c : κ, (Channel.receive c).1 ≠ .dead → rank (Channel.receive c).2 < rank c)
    (c : κ) : Limited c := by
  have later {c d : κ} (h : Later c d) : rank d ≤ rank c := by
    induction h with
    | refl => exact Nat.le_refl _
    | tail _ next ih => exact Nat.le_trans (keeps _ _ next) ih
  have lower (c d : κ) (h : Spent d c) : rank d < rank c := by
    obtain ⟨m, reached, alive, rest⟩ := h
    have before := later reached
    have between := lowers m alive
    have after := later rest
    omega
  exact (Subrelation.wf (fun {d c} => lower c d) (measure rank).wf).apply c

end Channel

namespace Scripted.Wire

/-- What is left on the wire and at the door, each item worth more than all idle attempts in a row,
and the idle attempts that are left. -/
def rest (w : Wire) : Nat :=
  (w.inbound.length + queueWeight w.peers) * (w.idleLimit + 2) + (w.idleLimit + 1 - w.idle)

theorem rest_receiveDrained (w : Wire) : w.receiveDrained.2.rest ≤ w.rest ∧
    (w.receiveDrained.1 ≠ .dead → w.receiveDrained.2.rest < w.rest) := by
  unfold receiveDrained
  split
  · refine ⟨?_, fun alive => absurd rfl alive⟩
    simp only [rest]
    omega
  · rename_i patient
    simp only [Bool.or_eq_true, decide_eq_true_eq, not_or] at patient
    simp only [rest]
    omega

/-- Whatever is taken off the wire or the queue makes up for the idle attempts that begin anew. -/
theorem rest_lt {v w : Wire} (limit : v.idleLimit = w.idleLimit)
    (fewer : v.inbound.length + queueWeight v.peers < w.inbound.length + queueWeight w.peers) :
    v.rest < w.rest := by
  have taken : (v.inbound.length + queueWeight v.peers + 1) * (w.idleLimit + 2) ≤
      (w.inbound.length + queueWeight w.peers) * (w.idleLimit + 2) :=
    Nat.mul_le_mul_right _ fewer
  rw [Nat.succ_mul] at taken
  simp only [rest, limit]
  omega

theorem rest_play (items : List Item) (w : Wire) :
    (w.play items).2.rest ≤ Wire.rest { w with inbound := items } ∧
      ((w.play items).1 ≠ .dead →
        (w.play items).2.rest < Wire.rest { w with inbound := items }) := by
  induction items generalizing w with
  | nil => exact rest_receiveDrained { w with inbound := [] }
  | cons item left ih =>
    suffices taken : (w.play (item :: left)).2.rest < Wire.rest { w with inbound := item :: left } from
      ⟨Nat.le_of_lt taken, fun _ => taken⟩
    cases item with
    | advance ms =>
      let passed : Wire := { w with idle := 0, clock := w.clock + ms }
      have rest := (ih passed).1
      have here : Wire.rest { passed with inbound := left } <
          Wire.rest { w with inbound := .advance ms :: left } := rest_lt rfl (by simp [passed])
      exact Nat.lt_of_le_of_lt rest here
    | frame f => exact rest_lt rfl (by simp [play])
    | nothing => exact rest_lt rfl (by simp [play])
    | dead => exact rest_lt rfl (by simp [play])
    | deadKeep => exact rest_lt rfl (by simp [play])
    | vanish => exact rest_lt rfl (by simp [play])

theorem rest_receive (w : Wire) : w.receive.2.rest ≤ w.rest ∧
    (w.receive.1 ≠ .dead → w.receive.2.rest < w.rest) := by
  unfold receive
  split
  · exact rest_play w.inbound w
  · exact ⟨Nat.le_refl _, fun alive => absurd rfl alive⟩

theorem rest_connect (w : Wire) : w.connect.2.rest ≤ w.rest := by
  unfold connect
  split
  · exact Nat.le_refl _
  · split
    · exact Nat.le_refl _
    · rename_i items peers queue
      refine Nat.le_of_lt (rest_lt rfl ?_)
      simp only [queue, queueWeight, List.length_append]
      omega
    · rename_i peers queue
      refine Nat.le_of_lt (rest_lt rfl ?_)
      simp only [queue, queueWeight]
      omega
    · rename_i peers queue
      refine Nat.le_of_lt (rest_lt rfl ?_)
      simp only [queue, queueWeight]
      omega

theorem rest_next {w v : Wire} (next : Channel.Next w v) : v.rest ≤ w.rest := by
  cases next with
  | setup =>
    change w.setup.2.rest ≤ w.rest
    unfold setup
    split <;> exact Nat.le_refl _
  | connect => exact w.rest_connect
  | send f =>
    change (w.send f).2.rest ≤ w.rest
    unfold send
    split
    · exact Nat.le_refl _
    · split <;> exact Nat.le_refl _
  | receive => exact w.rest_receive.1
  | disconnect =>
    have emptied : queueWeight w.peers * (w.idleLimit + 2) ≤
        (w.inbound.length + queueWeight w.peers) * (w.idleLimit + 2) :=
      Nat.mul_le_mul_right _ (by omega)
    change w.disconnect.rest ≤ w.rest
    simp only [rest, disconnect, List.length_nil, Nat.zero_add]
    omega

/-- A script comes to its end, whatever is done with the wire. -/
theorem limited (w : Wire) : Channel.Limited w :=
  Channel.limited_of_measure rest (fun _ _ => rest_next) (fun w => w.rest_receive.2) w

end Scripted.Wire

end HostLink
