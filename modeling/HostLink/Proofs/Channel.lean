import HostLink.Pipe.Basic
import HostLink.Scripted.Wire

/-!
# HostLink.Proofs.Channel

What a session may expect of its channel: it comes to be connected by letting a peer in and in no
other way, and it is not connected once it has been closed. It may lose its peer at any moment.
The scripted channel and the pipe keep this contract. The pipe keeps two more, each a law of its
own: it parts with a peer to whom it could not send (`ClosingChannel`), and it takes no frame while
it has no peer (`FaithfulChannel`). The one does not follow from the other; a channel may close when
it could not send and go on to take frames.
-/

namespace HostLink

/-- A channel that is connected only after letting a peer in, and never after being closed. -/
class LawfulChannel (κ : Type) [Channel κ] : Prop where
  setup_keeps (c : κ) :
    Channel.isConnected (Channel.setup c).2 = true → Channel.isConnected c = true
  connect_keeps (c : κ) : Channel.isConnected (Channel.connect c).2 = true →
    Channel.isConnected c = true ∨ (Channel.connect c).1 = .ok true
  send_keeps (f : Frame) (c : κ) :
    Channel.isConnected (Channel.send f c).2 = true → Channel.isConnected c = true
  receive_keeps (c : κ) :
    Channel.isConnected (Channel.receive c).2 = true → Channel.isConnected c = true
  disconnect_ends (c : κ) : Channel.isConnected (Channel.disconnect c) = false

/-- Such a channel that closes when it could not send. -/
class ClosingChannel (κ : Type) [Channel κ] : Prop extends LawfulChannel κ where
  refused_closes (f : Frame) (c : κ) (e : Fault) :
    (Channel.send f c).1 = .error e → Channel.isConnected (Channel.send f c).2 = false

/-- Such a channel that moreover sends to a peer only. -/
class FaithfulChannel (κ : Type) [Channel κ] : Prop extends ClosingChannel κ where
  sent_connected (f : Frame) (c : κ) :
    (Channel.send f c).1 = .ok () → Channel.isConnected c = true

namespace Scripted.Wire

theorem setup_connected (w : Wire) : w.setup.2.connected = w.connected := by
  unfold setup
  split <;> rfl

theorem connect_connected (w : Wire) (h : w.connect.2.connected = true) :
    w.connected = true ∨ w.connect.1 = .ok true := by
  unfold connect at h ⊢
  split at h
  · exact .inl h
  · split at h
    · exact .inl h
    · rename_i ready _ _ _ _
      rw [if_neg ready]
      simp
    · exact .inl h
    · exact .inl h

theorem send_connected (f : Frame) (w : Wire) (h : (w.send f).2.connected = true) :
    w.connected = true := by
  unfold send at h
  split at h
  · exact h
  · rename_i up
    simpa using up

theorem receive_connected (w : Wire) (h : w.receive.2.connected = true) : w.connected = true := by
  unfold receive at h
  split at h
  · assumption
  · exact h

end Scripted.Wire

instance : LawfulChannel Scripted.Wire where
  setup_keeps w h := (Scripted.Wire.setup_connected w).symm.trans h
  connect_keeps := Scripted.Wire.connect_connected
  send_keeps := Scripted.Wire.send_connected
  receive_keeps := Scripted.Wire.receive_connected
  disconnect_ends _ := rfl

namespace Pipe

variable {σ : Type} [Sockets σ]

theorem setup_streaming (p : Pipe σ) : p.setup.2.streaming = p.streaming := by
  unfold setup
  split
  · rfl
  · split <;> rfl

theorem connect_streaming (p : Pipe σ) (h : p.connect.2.streaming = true) :
    p.streaming = true ∨ p.connect.1 = .ok true := by
  unfold connect at h ⊢
  split at h
  · exact .inl h
  · split at h
    · exact .inl h
    · rename_i shut bound
      rw [if_neg shut, if_neg bound]
      split at h
      · exact .inr (congrArg Except.ok h)
      · exact .inl h

theorem send_streaming (f : Frame) (p : Pipe σ) :
    ((p.send f).1 = .ok () ∧ p.streaming = true ∧ (p.send f).2.streaming = true) ∨
      ∃ e, (p.send f).1 = .error e ∧ (p.send f).2.streaming = false := by
  unfold send
  cases up : p.streaming with
  | false => exact .inr ⟨_, rfl, up⟩
  | true =>
    rcases written : Sockets.write f.encode p.sockets with ⟨ok, s⟩
    cases ok with
    | true => exact .inl ⟨rfl, rfl, rfl⟩
    | false => exact .inr ⟨_, rfl, rfl⟩

theorem receive_streaming (p : Pipe σ) (h : p.receive.2.streaming = true) :
    p.streaming = true := by
  unfold receive at h
  split at h
  · exact h
  · split at h
    · exact h
    · rename_i held
      simpa using held

end Pipe

instance (σ : Type) [Pipe.Sockets σ] : FaithfulChannel (Pipe σ) where
  setup_keeps p h := p.setup_streaming.symm.trans h
  connect_keeps := Pipe.connect_streaming
  send_keeps f p h := by
    rcases p.send_streaming f with ⟨-, up, -⟩ | ⟨e, -, down⟩
    · exact up
    · exact nomatch down.symm.trans h
  receive_keeps := Pipe.receive_streaming
  disconnect_ends _ := rfl
  sent_connected f p sent := by
    rcases p.send_streaming f with ⟨-, up, -⟩ | ⟨e, refused, -⟩
    · exact up
    · exact nomatch refused.symm.trans sent
  refused_closes f p e refused := by
    rcases p.send_streaming f with ⟨sent, -, -⟩ | ⟨-, -, down⟩
    · exact nomatch sent.symm.trans refused
    · exact down

end HostLink
