import HostLink.Handle
import HostLink.Proofs.Session.Bisimulation
import HostLink.Proofs.Session.Firm

/-!
# HostLink.Proofs.Session.Lent

A session that its handle has lent out. Nothing that a session does takes the mark away, so a native
finds the handle in use wherever it runs, and an attendant who refuses at a handle in use
(`Attendant.Refuses`) refuses all that it asks (`attend_lent`). The session then does what it would
do by itself: there is one lemma for each thing in which an invocation may be answered, up to
`respond_lent` and `perform_lent`.
-/

namespace HostLink

variable {κ η : Type}

/-- Whatever is asked of a handle in use is refused. -/
def Attendant.Refuses (attendant : Attendant κ η) : Prop :=
  ∀ q, attendant q .inUse = some ⟨q.refusal, Session.refusalNotices q, .inUse⟩

namespace Session

theorem noteAll_noteAll (ns ms : List Notice) (s : Session κ η) :
    (s.noteAll ns).noteAll ms = s.noteAll (ns ++ ms) := by
  simp [noteAll, recordAll]

/-- A session that was lent and given back is what it was. -/
theorem setLent_idle {s : Session κ η} (idle : s.lent = false) :
    (s.setLent true).setLent false = s := by
  cases s
  cases idle
  rfl

/-! ## Natives -/

section Natives

variable {attendant : Attendant κ η} {s : Session κ η}

theorem handle_lent (lent : s.lent = true) : s.handle = .inUse := if_pos lent

theorem turnTo_lent (refuses : attendant.Refuses) (lent : s.lent = true) (q : Native.Request) :
    s.turnTo attendant q = some (q.refusal, s.noteAll (refusalNotices q)) := by
  unfold turnTo
  rw [handle_lent lent, refuses]
  rfl

/-- A native that runs inside is refused whatever it asks. -/
theorem attend_lent (refuses : attendant.Refuses) (script : Native.Script η)
    (lent : s.lent = true) : s.attend attendant script = some (script.refuse.result,
      { s with host := script.refuse.host }.noteAll
        (script.refuse.asked.flatMap refusalNotices)) := by
  induction script generalizing s with
  | done result host => rfl
  | ask q host next ih =>
    let asking : Session κ η := { s with host := host }
    let o := (next q.refusal host).refuse
    have refused := turnTo_lent (s := asking) refuses lent q
    unfold attend
    rw [refused]
    refine (ih q.refusal host (s := asking.noteAll (refusalNotices q)) lent).trans ?_
    have noted := noteAll_noteAll (refusalNotices q) (o.asked.flatMap refusalNotices)
      { asking with host := o.host }
    exact congrArg (fun t => some (o.result, t)) noted

theorem attendInvocation_lent [Channel κ] (refuses : attendant.Refuses) (caller : UInt16)
    (request : Bytes) (lent : s.lent = true) :
    s.attendInvocation attendant caller request = some (s.answerInvocation caller request) := by
  unfold attendInvocation answerInvocation
  dsimp only
  cases (Cell.Writer.empty s.settings.maxPayloadSize.toNat).put (.u16 caller) with
  | error e => rfl
  | ok w =>
    dsimp only
    unfold Native.Table.invoke
    cases s.natives.find request with
    | error e => rfl
    | ok found =>
      dsimp only
      rw [attend_lent refuses _ lent]

end Natives

/-! ## What a session does -/

section Serve

variable [Channel κ] {attendant : Attendant κ η} {await await' : Wait κ η} {s : Session κ η}

/-- Two waits come to the same while the session is lent out. -/
def Wait.AgreesLent (await await' : Wait κ η) : Prop :=
  ∀ {s : Session κ η}, s.lent = true → await s = await' s

theorem deliverInit_lent (waits : await.AgreesLent await') (lent : s.lent = true) :
    s.deliverInit await = s.deliverInit await' := by
  unfold deliverInit
  by_cases busy : s.delivering = true
  · rw [if_pos busy, if_pos busy]
  · rw [if_neg busy, if_neg busy]
    let t : Session κ η := { s with status := s.status.initDelivered }
    dsimp only
    rcases t.callPayload 0 s.settings.initCallback [] with e | _ | payload
    · rfl
    · rfl
    · have called := firm_send Opcode.publicCall payload { t with delivering := true }
      dsimp only
      rw [waits (called.lent.trans lent)]

variable [Host η]

theorem serveStart_lent (waits : await.AgreesLent await') (mode : StartMode)
    (lent : s.lent = true) : s.serveStart await mode = s.serveStart await' mode := by
  cases mode with
  | deliverInit =>
    have same := deliverInit_lent (s := s.begun.note .startsFaking) waits lent
    by_cases host : (s.begun.note .startsFaking).status.hostInit = true
    · exact (if_pos host).trans (same.trans (if_pos host).symm)
    · exact (if_neg host).trans (if_neg host).symm
  | _ => rfl

theorem serve_lent (refuses : attendant.Refuses) (waits : await.AgreesLent await')
    (command : Command) (lent : s.lent = true) :
    (letI : Invoker κ η := .attending attendant; s.serve await command) =
      s.serve await' command := by
  cases command with
  | invokeNative caller request => exact attendInvocation_lent refuses caller request lent
  | start mode => exact serveStart_lent waits mode lent
  | _ => rfl

theorem serveFrame_lent (refuses : attendant.Refuses) (waits : await.AgreesLent await')
    (f : Frame) (lent : s.lent = true) :
    (letI : Invoker κ η := .attending attendant; s.serveFrame await f) =
      s.serveFrame await' f := by
  unfold serveFrame
  rcases Command.decode f with e | _ | command
  · rfl
  · rfl
  · dsimp only
    rw [serve_lent refuses waits command lent]

theorem poll_lent (refuses : attendant.Refuses) (waits : await.AgreesLent await')
    (lent : s.lent = true) :
    (letI : Invoker κ η := .attending attendant; s.poll await) = s.poll await' := by
  have kept : s.connect.2.lent = true := (firm_connect s).lent.trans lent
  unfold poll
  by_cases lost : (s.status.isUp && !Channel.isConnected s.channel) = true
  · rw [if_pos lost, if_pos lost]
  · rw [if_neg lost, if_neg lost]
    generalize s.connect = r at kept ⊢
    rcases r with ⟨_ | _, t⟩
    · rfl
    · dsimp only
      rcases Channel.receive t.channel with ⟨f | _ | _, c⟩
      · exact serveFrame_lent (s := { t with channel := c }.hear f) refuses waits f kept
      · rfl
      · rfl

theorem awaitReply_lent (refuses : attendant.Refuses) (patience : Nat) :
    (letI : Invoker κ η := .attending attendant; awaitReply patience).AgreesLent
      (awaitReply patience : Wait κ η) := by
  -- a look may wait itself, with less patience than the wait that looks
  induction patience with
  | zero => intro s _; rfl
  | succ n ih =>
    intro s lent
    have kept {step : Step} {t : Session κ η} (polled : s.poll (awaitReply n) = some (step, t)) :
        t.lent = true := ((conduct_firm.poll (conduct_firm.awaitReply n) polled).lent).trans lent
    unfold awaitReply
    rw [poll_lent refuses ih lent]
    rcases polled : s.poll (awaitReply n) with _ | ⟨step, t⟩
    · rfl
    · cases step with
      | served => exact ih (kept polled)
      | nothing => exact ih (kept polled)
      | answer payload => rfl
      | dead => rfl

theorem drain_lent (refuses : attendant.Refuses) (patience : Nat) (lent : s.lent = true) :
    (letI : Invoker κ η := .attending attendant; s.drain patience) = s.drain patience := by
  induction patience generalizing s with
  | zero => rfl
  | succ n ih =>
    have kept {step : Step} {t : Session κ η} (polled : s.poll (awaitReply n) = some (step, t)) :
        t.lent = true := ((conduct_firm.poll (conduct_firm.awaitReply n) polled).lent).trans lent
    unfold drain
    rw [poll_lent refuses (awaitReply_lent refuses n) lent]
    rcases polled : s.poll (awaitReply n) with _ | ⟨step, t⟩
    · rfl
    · cases step with
      | served => exact ih (kept polled)
      | nothing => rfl
      | answer payload =>
        have mark : t.lent = true := kept polled
        exact ih (s := t.note (.strayReply payload.length)) mark
      | dead => rfl

theorem tick_lent (refuses : attendant.Refuses) (patience : Nat) (lent : s.lent = true) :
    (letI : Invoker κ η := .attending attendant; s.tick patience) = s.tick patience :=
  drain_lent refuses patience ((firm_heartbeat s).lent.trans lent)

theorem call_lent (refuses : attendant.Refuses) (patience : Nat) (caller : UInt16)
    (name : String) (params : List Callback.Param) (lent : s.lent = true) :
    (letI : Invoker κ η := .attending attendant; s.call patience caller name params) =
      s.call patience caller name params := by
  have passed : ((s.observe name).gate name).2.lent = true :=
    ((firm_observe name s).trans (firm_gate name _)).lent.trans lent
  unfold call
  rcases gated : (s.observe name).gate name with ⟨_ | _, t⟩
  · rfl
  · dsimp only
    rcases t.callPayload caller name params with e | _ | payload
    · rfl
    · rfl
    · rw [gated] at passed
      have sent := (firm_send Opcode.publicCall payload t).lent.trans passed
      dsimp only
      rw [awaitReply_lent refuses patience sent]

/-- Whatever the host does with the session, natives inside it make no difference. -/
theorem respond_lent (refuses : attendant.Refuses) (patience : Nat) (act : Act)
    (lent : s.lent = true) :
    (letI : Invoker κ η := .attending attendant; s.respond patience act) =
      s.respond patience act := by
  cases act with
  | tick =>
    unfold respond
    dsimp only
    rw [tick_lent refuses patience lent]
  | call caller name params =>
    unfold respond
    dsimp only
    rw [call_lent refuses patience caller name params lent]
  | _ => rfl

/-- Whatever is asked of the session, natives inside it make no difference. -/
theorem perform_lent (refuses : attendant.Refuses) (patience : Nat) (q : Native.Request)
    (lent : s.lent = true) :
    (letI : Invoker κ η := .attending attendant; Handle.perform patience s q) =
      Handle.perform patience s q := by
  cases q with
  | tick =>
    unfold Handle.perform
    dsimp only
    rw [tick_lent refuses patience lent]
  | call caller name params => exact call_lent refuses patience caller name params lent
  | _ => rfl

end Serve

end Session

end HostLink
