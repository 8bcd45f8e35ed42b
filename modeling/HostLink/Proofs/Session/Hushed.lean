import HostLink.Proofs.Session.Traffic

/-!
# HostLink.Proofs.Session.Hushed

What becomes of a frame that is handed to a channel which sends to a peer only and closes when it
could not (`FaithfulChannel`): it is taken by somebody who is connected, or nobody is connected
afterwards (`send_cases`). Nothing is sent while nobody is connected (`Hushed`), whatever frame is
served then (`Served.hushed`).
-/

namespace HostLink

theorem Journal.sent_append {η : Type} (j es : Journal η) : (j ++ es).sent = j.sent ++ es.sent :=
  List.filterMap_append

namespace Session

variable {κ η : Type} [Channel κ]

/-- If nobody was connected, nothing has been sent. -/
def Hushed (s t : Session κ η) : Prop :=
  Channel.isConnected s.channel = false → t.traffic.sent = s.traffic.sent

theorem hushed_traffic {s t : Session κ η} (traffic : t.traffic = s.traffic) : Hushed s t :=
  fun _ => congrArg Journal.sent traffic

theorem Hushed.rest {s t : Session κ η} (h : Hushed s t) {es : Journal η}
    (traffic : t.traffic = s.traffic ++ es) (lost : Channel.isConnected s.channel = false) :
    es.sent = [] := by
  have same := h lost
  rw [traffic, Journal.sent_append] at same
  exact List.append_right_eq_self.mp same

/-- Somebody who is connected takes the frame, or nobody is connected afterwards. -/
theorem send_cases [FaithfulChannel κ] (opcode : UInt8) (payload : Bytes) (s : Session κ η) :
    (Channel.isConnected s.channel = true ∧
      (s.send opcode payload).traffic = s.traffic ++ [.sent ⟨opcode, payload⟩ s.status]) ∨
    (Channel.isConnected (s.send opcode payload).channel = false ∧
      (s.send opcode payload).traffic = s.traffic ++ [.unsent ⟨opcode, payload⟩ s.status]) := by
  have accepts := FaithfulChannel.sent_connected ⟨opcode, payload⟩ s.channel
  have refuses := ClosingChannel.refused_closes ⟨opcode, payload⟩ s.channel
  unfold send
  rcases answered : Channel.send ⟨opcode, payload⟩ s.channel with ⟨r, c⟩
  rw [answered] at accepts refuses
  cases r with
  | ok _ =>
    dsimp only
    rw [traffic_record]
    exact .inl ⟨accepts rfl, rfl⟩
  | error e =>
    dsimp only
    rw [traffic_note, traffic_record]
    exact .inr ⟨refuses e rfl, rfl⟩

theorem hushed_send [FaithfulChannel κ] {s t : Session κ η}
    (traffic : t.traffic.sent = s.traffic.sent) (channel : t.channel = s.channel)
    (opcode : UInt8) (payload : Bytes) :
    Hushed s (t.send opcode payload) := by
  intro lost
  rcases send_cases opcode payload t with ⟨connected, -⟩ | ⟨-, refused⟩
  · rw [channel, lost] at connected
    cases connected
  · rw [refused, Journal.sent_append, traffic]
    simp [Journal.sent, Event.sent?]

theorem sent_traffic_disconnect (context : Option String) (expected : Bool) (s : Session κ η) :
    (s.disconnect context expected).traffic.sent = s.traffic.sent := by
  by_cases up : s.status.isUp = true
  · rw [traffic_disconnect context expected up, Journal.sent_append]
    simp [Journal.sent, Event.sent?]
  · rw [show s.disconnect context expected = s from if_neg up]

theorem hushed_beat [FaithfulChannel κ] (s : Session κ η) : Hushed s (s.setHolding false).beat := by
  let held := s.setHolding false
  have heldTraffic : held.traffic = s.traffic := traffic_setHolding false s
  unfold beat
  dsimp only
  split
  · exact hushed_traffic ((traffic_noteAll _ _).trans heldTraffic)
  · rename_i detector notices _
    let noted : Session κ η :=
      { held with detector := detector.heartbeat (Channel.now held.channel) }.noteAll notices
    have traffic : noted.traffic = s.traffic := (traffic_noteAll _ _).trans heldTraffic
    exact hushed_send (congrArg Journal.sent traffic) rfl Opcode.tick []

variable [Host η]

omit [Channel κ] in
theorem sent_traffic_consulted (name : String) (s : Session κ η) :
    (s.consulted name).traffic.sent = s.traffic.sent := by
  rw [traffic_consulted, Journal.sent_append]
  simp [Journal.sent, Event.sent?]

theorem hushed_answerLookup [FaithfulChannel κ] (caller : UInt16) (name : String)
    (s : Session κ η) : Hushed s (s.answerLookup caller name) := by
  have consulted := s.sent_traffic_consulted name
  rcases answerLookup_cases caller name s with ⟨e, -, eq⟩ | ⟨payload, -, eq⟩
  · rw [eq]
    intro _
    rw [traffic_note, consulted]
  · rw [eq]
    refine hushed_send consulted ?_ _ _
    unfold Session.consulted
    dsimp only
    cases (s.natives.resolve name s.host).answer <;> rfl

omit [Host η] in
theorem hushed_answerInvocation [FaithfulChannel κ] (caller : UInt16) (request : Bytes)
    (s : Session κ η) : Hushed s (s.answerInvocation caller request) := by
  unfold answerInvocation
  split
  · exact hushed_traffic (traffic_note _ s)
  · rename_i w _
    let done := s.natives.invoke request w s.host
    let noted : Session κ η := ({ s with host := done.host }.noteAll
      (done.asked.flatMap refusalNotices)).note (invocationNotice request.length done.result)
    have traffic : noted.traffic = s.traffic := (traffic_note _ _).trans (traffic_noteAll _ _)
    exact hushed_send (congrArg Journal.sent traffic) rfl Opcode.reply done.writer.bytes

theorem Served.hushed [FaithfulChannel κ] {f : Frame} {s t : Session κ η} {step : Step}
    (h : Served f s step t) : Hushed s t := by
  have begun : s.begun.traffic = s.traffic := traffic_note _ s
  have delivered : s.delivered.traffic = s.traffic := (traffic_note _ s.begun).trans begun
  cases h with
  | malformed => exact hushed_traffic (traffic_note _ s)
  | answer => exact hushed_traffic rfl
  | ping => exact hushed_send rfl rfl _ _
  | print => exact hushed_traffic (traffic_note _ s)
  | alive => exact hushed_traffic rfl
  | registerCall => exact hushed_traffic (traffic_enterCallback _ s)
  | findNative => exact hushed_answerLookup _ _ s
  | invokeNative => exact hushed_answerInvocation _ _ s
  | reconnect =>
    intro _
    rw [sent_traffic_disconnect]
    exact congrArg Journal.sent (traffic_note _ s)
  | disconnect => exact hushed_traffic (traffic_note _ s)
  | waits => exact hushed_traffic ((traffic_note _ _).trans begun)
  | restarts =>
    exact hushed_traffic ((traffic_restart _).trans ((traffic_note _ _).trans begun))
  | unknown => exact hushed_traffic ((traffic_note _ _).trans begun)
  | early => exact hushed_traffic ((traffic_note _ _).trans begun)
  | nested => exact hushed_traffic ((traffic_note _ _).trans ((traffic_note _ _).trans begun))
  | unwritable => exact hushed_traffic ((traffic_note _ _).trans delivered)
  | unregistered => exact hushed_traffic delivered

end Session

end HostLink
