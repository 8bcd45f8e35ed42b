import HostLink.Pipe.Basic
import HostLink.Pipe.Local
import HostLink.Proofs.Frame.Stream

/-!
# HostLink.Proofs.Pipe.Run

The life of a pipe. Its host sets it up, connects, sends, receives and disconnects in any order, and
in between the sockets may change in any way (`Run`). A log keeps what the host got to see and what
the reads of the stream gave (`Incident`); `Log.latest` is what has happened since a stream was
opened last.

* `Receipt`   — all that a receive can come to.
* `Run.sound` — while a stream is open, the frames that were given and those in line are the frames
  of the bytes read from it; while none is open, nothing of it is left (`Sound`).
-/

namespace HostLink

open HostLink.Frame (Buffer)

namespace Pipe

/-- Something that happened to a pipe. -/
inductive Incident where
  /-- A stream was opened. -/
  | opened
  /-- A read of the stream gave these bytes. -/
  | read (chunk : Bytes)
  /-- A receive gave this frame. -/
  | gave (f : Frame)
  /-- A receive found the connection dead. -/
  | dead
  /-- A send failed. -/
  | unsent
  /-- The host hung up. -/
  | hungUp
  deriving DecidableEq, Repr

namespace Incident

def chunk? : Incident → Option Bytes
  | .read chunk => some chunk
  | _ => none

def frame? : Incident → Option Frame
  | .gave f => some f
  | _ => none

/-- Bytes came in or a frame went out. -/
def isFlow : Incident → Bool
  | .read _ => true
  | .gave _ => true
  | _ => false

/-- Something after which no stream is open. -/
def isEnd : Incident → Bool
  | .dead => true
  | .unsent => true
  | .hungUp => true
  | _ => false

end Incident

abbrev Log := List Incident

namespace Log

def chunks (log : Log) : List Bytes := log.filterMap Incident.chunk?

def bytes (log : Log) : Bytes := log.chunks.flatten

def given (log : Log) : List Frame := log.filterMap Incident.frame?

def latestBy (talk : Option Log) (e : Incident) : Option Log :=
  if e = .opened then some [] else talk.map (· ++ [e])

/-- What has happened since a stream was opened last, if one was. -/
def latest (log : Log) : Option Log := log.foldl latestBy none

/-- There was nothing but bytes coming in and frames going out. -/
def Flowing (log : Log) : Prop := ∀ e ∈ log, e.isFlow = true

variable {log talk : Log}

@[simp] theorem bytes_append (log es : Log) : (log ++ es).bytes = log.bytes ++ es.bytes := by
  simp [bytes, chunks]

@[simp] theorem given_append (log es : Log) : (log ++ es).given = log.given ++ es.given := by
  simp [given]

theorem latest_append (log es : Log) : (log ++ es).latest = es.foldl latestBy log.latest :=
  List.foldl_append

theorem latest_opened (log : Log) : Log.latest (log ++ [.opened]) = some [] := by
  simp [latest_append, latestBy]

/-- What happens on a connection is added to what has happened on it. -/
theorem latest_more {es : Log} (same : ∀ e ∈ es, e ≠ .opened) :
    (log ++ es).latest = log.latest.map (· ++ es) := by
  rw [latest_append]
  generalize log.latest = talk
  induction es generalizing talk with
  | nil => cases talk <;> simp
  | cons e es ih =>
    obtain ⟨first, rest⟩ := List.forall_mem_cons.mp same
    rw [List.foldl_cons, latestBy, if_neg first, ih rest]
    cases talk <;> simp

theorem bytes_ends {es : Log} (ends : ∀ e ∈ es, e.isEnd = true) : es.bytes = [] := by
  have nothing : es.filterMap Incident.chunk? = [] := by
    refine List.filterMap_eq_nil_iff.mpr fun e mem => ?_
    have := ends e mem
    cases e <;> simp_all [Incident.chunk?, Incident.isEnd]
  simp [bytes, chunks, nothing]

theorem given_ends {es : Log} (ends : ∀ e ∈ es, e.isEnd = true) : es.given = [] := by
  refine List.filterMap_eq_nil_iff.mpr fun e mem => ?_
  have := ends e mem
  cases e <;> simp_all [Incident.frame?, Incident.isEnd]

end Log

/-! ## What holds all the time -/

/-- What a buffer that waits for a stream's first byte makes of the bytes that were read. -/
def drained (max : UInt32) (talk : Log) : List Frame × Option Fault × Buffer :=
  ((Buffer.empty max).append talk.bytes).drain

variable {σ : Type}

/-- What ended a connection after this talk, the fault in its bytes, and the frames that were lost
with it. A stream that is found dead loses none, if its bytes were sound; if they were not, none was
in line when the chunk with the fault was read. -/
inductive Parting (max : UInt32) : Log → Incident → Option Fault → List Frame → Prop where
  | found (talk : Log) : Parting max talk .dead none []
  | givenUp (talk : Log) {e : Incident} (other : e ≠ .dead) (line : List Frame) :
      Parting max talk e none line
  | oversized {talk : Log} {b : Buffer} (account : drained max talk = (talk.given, none, b))
      (chunk : Bytes) (e : Fault) (frames : List Frame) :
      Parting max (talk ++ [.read chunk]) .dead (some e) frames

/-- How the last connection stands, given what has happened on it. -/
inductive Connection (max : UInt32) (p : Pipe σ) : Log → Prop where
  | flowing {talk : Log} (up : p.streaming = true) (flow : talk.Flowing)
      (account : drained max talk = (talk.given ++ p.pending, none, p.buffer)) :
      Connection max p talk
  /-- It came to an end. -/
  | past {talk rest : Log} {e : Incident} {lost : List Frame} {stop : Option Fault} {last : Buffer}
      (down : p.streaming = false) (flow : talk.Flowing) (ends : ∀ e' ∈ e :: rest, e'.isEnd = true)
      (account : drained max talk = (talk.given ++ lost, stop, last))
      (parting : Parting max talk e stop lost) : Connection max p (talk ++ e :: rest)

/-- What holds of a pipe and its log at any time. -/
structure Sound (max : UInt32) (log : Log) (p : Pipe σ) : Prop where
  limit : p.buffer.max = max
  clean : p.streaming = false → p.buffer = .empty max ∧ p.pending = []
  opened : p.streaming = true → ∃ talk, log.latest = some talk
  connection : ∀ talk, log.latest = some talk → Connection max p talk

variable {max : UInt32} {log talk : Log} {p q : Pipe σ}

/-- Only the stream, the buffer and the line matter. -/
theorem Sound.same (h : Sound max log p) (streaming : q.streaming = p.streaming)
    (buffer : q.buffer = p.buffer) (pending : q.pending = p.pending) : Sound max log q where
  limit := by rw [buffer]; exact h.limit
  clean := by rw [streaming, buffer, pending]; exact h.clean
  opened := by rw [streaming]; exact h.opened
  connection := by
    intro talk since
    cases h.connection talk since with
    | flowing up flow account =>
      exact .flowing (streaming.trans up) flow (by rw [pending, buffer]; exact account)
    | past down flow ends account parting =>
      exact .past (streaming.trans down) flow ends account parting

/-- Bytes came in, or frames went out, and the stream is still open. -/
theorem Sound.flow (h : Sound max log p) {es : Log} (up : p.streaming = true)
    (flowing : es.Flowing) (still : q.streaming = true) (limit : q.buffer.max = max)
    (account : ∀ talk, drained max talk = (talk.given ++ p.pending, none, p.buffer) →
      drained max (talk ++ es) = ((talk ++ es).given ++ q.pending, none, q.buffer)) :
    Sound max (log ++ es) q := by
  have same : ∀ e ∈ es, e ≠ .opened := by
    rintro e mem rfl
    exact nomatch flowing _ mem
  obtain ⟨talk, since⟩ := h.opened up
  have now : (log ++ es).latest = some (talk ++ es) := by
    rw [Log.latest_more same, since, Option.map_some]
  refine ⟨limit, fun down => ?_, fun _ => ⟨_, now⟩, fun talk' since' => ?_⟩
  · rw [still] at down
    cases down
  · rw [now] at since'
    cases since'
    cases h.connection talk since with
    | flowing _ flow before =>
      refine .flowing still (fun e mem => ?_) (account talk before)
      exact (List.mem_append.mp mem).elim (flow e) (flowing e)
    | past down => rw [up] at down; cases down

/-- The stream was closed, and with it went what was left. -/
theorem Sound.close (h : Sound max log p) (es : Log) (e : Incident) (up : p.streaming = true)
    (flowing : es.Flowing) (ends : e.isEnd = true) (down : q.streaming = false)
    (clean : q.buffer = .empty max ∧ q.pending = [])
    (account : ∀ talk, drained max talk = (talk.given ++ p.pending, none, p.buffer) →
      ∃ lost stop last, drained max (talk ++ es) = ((talk ++ es).given ++ lost, stop, last) ∧
        Parting max (talk ++ es) e stop lost) :
    Sound max (log ++ (es ++ [e])) q := by
  have same : ∀ e' ∈ es ++ [e], e' ≠ .opened := by
    rintro e' mem rfl
    rcases List.mem_append.mp mem with mem | mem
    · exact nomatch flowing _ mem
    · cases List.mem_singleton.mp mem
      cases ends
  obtain ⟨talk, since⟩ := h.opened up
  have now : (log ++ (es ++ [e])).latest = some (talk ++ (es ++ [e])) := by
    rw [Log.latest_more same, since, Option.map_some]
  refine ⟨by rw [clean.1]; rfl, fun _ => clean, fun still => ?_, fun talk' since' => ?_⟩
  · rw [down] at still
    cases still
  · rw [now] at since'
    cases since'
    cases h.connection talk since with
    | flowing _ flow before =>
      obtain ⟨lost, stop, last, after, parting⟩ := account talk before
      rw [← List.append_assoc]
      refine .past down (fun e' mem => ?_) (by simpa using ends) after parting
      exact (List.mem_append.mp mem).elim (flow e') (flowing e')
    | past down => rw [up] at down; cases down

/-- More is said about a connection that is over, or about none. -/
theorem Sound.after (h : Sound max log p) {e : Incident} (shut : p.streaming = false)
    (ends : e.isEnd = true) (down : q.streaming = false)
    (clean : q.buffer = .empty max ∧ q.pending = []) : Sound max (log ++ [e]) q := by
  have other : e ≠ .opened := by
    rintro rfl
    cases ends
  have now : (log ++ [e]).latest = log.latest.map (· ++ [e]) :=
    Log.latest_more (by simpa using other)
  refine ⟨by rw [clean.1]; rfl, fun _ => clean, fun still => ?_, fun talk' since' => ?_⟩
  · rw [down] at still
    cases still
  · rw [now] at since'
    obtain ⟨talk, since, rfl⟩ := Option.map_eq_some_iff.mp since'
    cases h.connection talk since with
    | flowing up => rw [shut] at up; cases up
    | @past talk rest e' _ _ _ _ flow closed account parting =>
      rw [List.append_assoc, List.cons_append]
      refine .past down flow ?_ account parting
      simpa [or_imp, forall_and, ends] using closed

theorem sound_make (max : UInt32) (sockets : σ) : Sound max [] (make max sockets) where
  limit := rfl
  clean _ := ⟨rfl, rfl⟩
  opened up := by cases up
  connection talk since := by cases since

/-! ## What the host does -/

def ReadOutcome.chunk? : ReadOutcome → Option Bytes
  | .chunk bytes => some bytes
  | _ => none

/-- What a host sees of a receive. -/
def seen : Received → Log
  | .frame f => [.gave f]
  | .nothing => []
  | .dead => [.dead]

/-- What a host does with a pipe. -/
inductive Act where
  | setup
  | connect
  | send (f : Frame)
  | receive
  | disconnect

variable [Sockets σ]

def perform (act : Act) (p : Pipe σ) : Pipe σ :=
  match act with
  | .setup => p.setup.2
  | .connect => p.connect.2
  | .send f => (p.send f).2
  | .receive => p.receive.2
  | .disconnect => p.disconnect

/-- What the next receive reads: nothing while frames are in line. -/
def reads (p : Pipe σ) : Log :=
  if p.pending = [] ∧ p.streaming = true then
    (Sockets.read p.sockets).1.chunk?.toList.map .read
  else []

/-- What an operation adds to the log. -/
def tells (act : Act) (p : Pipe σ) : Log :=
  match act with
  | .setup => []
  | .connect => if p.streaming = false ∧ p.connect.2.streaming = true then [.opened] else []
  | .send f => if (p.send f).1.isOk then [] else [.unsent]
  | .receive => p.reads ++ seen p.receive.1
  | .disconnect => [.hungUp]

/-- A run of a pipe that accepts payloads up to `max`, and its log. -/
inductive Run (max : UInt32) : Log → Pipe σ → Prop where
  | made (sockets : σ) : Run max [] (make max sockets)
  | did {log : Log} {p : Pipe σ} (run : Run max log p) (act : Act) :
      Run max (log ++ p.tells act) (p.perform act)
  | passed {log : Log} {p : Pipe σ} (run : Run max log p) (sockets : σ) :
      Run max log { p with sockets := sockets }

/-! ## Receiving -/

/-- What a receive adds to the log, what it gives, and the pipe behind it. -/
inductive Receipt (p : Pipe σ) : Log → Received × Pipe σ → Prop where
  | inLine {f : Frame} {rest : List Frame} (line : p.pending = f :: rest) :
      Receipt p [.gave f] (.frame f, { p with pending := rest })
  | shut (line : p.pending = []) (down : p.streaming = false) : Receipt p [.dead] (.dead, p)
  | idle {s : σ} (line : p.pending = []) (up : p.streaming = true) :
      Receipt p [] (.nothing, { p with sockets := s })
  | ended {s : σ} (line : p.pending = []) (up : p.streaming = true) :
      Receipt p [.dead] (.dead, { p with sockets := s }.closeStream)
  | whole {s : σ} {chunk : Bytes} {f : Frame} {rest : List Frame} {b : Buffer}
      (line : p.pending = []) (up : p.streaming = true)
      (drained : (p.buffer.append chunk).drain = (f :: rest, none, b)) :
      Receipt p [.read chunk, .gave f]
        (.frame f, { p with sockets := s, buffer := b, pending := rest })
  | part {s : σ} {chunk : Bytes} {b : Buffer} (line : p.pending = []) (up : p.streaming = true)
      (drained : (p.buffer.append chunk).drain = ([], none, b)) :
      Receipt p [.read chunk] (.nothing, { p with sockets := s, buffer := b })
  | oversized {s : σ} {chunk : Bytes} {frames : List Frame} {e : Fault} {b : Buffer}
      (line : p.pending = []) (up : p.streaming = true)
      (drained : (p.buffer.append chunk).drain = (frames, some e, b)) :
      Receipt p [.read chunk, .dead] (.dead, { p with sockets := s, buffer := b }.closeStream)

theorem receipt (p : Pipe σ) : Receipt p (p.tells .receive) p.receive := by
  have told : p.tells .receive = p.reads ++ seen p.receive.1 := rfl
  cases line : p.pending with
  | cons f rest =>
    have eq : p.receive = (.frame f, { p with pending := rest }) := by simp [receive, line]
    have reads : p.reads = [] := if_neg (by simp [line])
    rw [told, reads, eq]
    exact .inLine line
  | nil =>
    cases up : p.streaming with
    | false =>
      have eq : p.receive = (.dead, p) := by simp [receive, line, up]
      have reads : p.reads = [] := if_neg (by simp [up])
      rw [told, reads, eq]
      exact .shut line up
    | true =>
      have reads : p.reads = (Sockets.read p.sockets).1.chunk?.toList.map .read :=
        if_pos ⟨line, up⟩
      rcases looked : Sockets.read p.sockets with ⟨outcome, s⟩
      rw [told, reads, looked]
      cases outcome with
      | idle =>
        have eq : p.receive = (.nothing, { p with sockets := s }) := by
          simp [receive, line, up, looked]
        rw [eq]
        exact .idle line up
      | ended =>
        have eq : p.receive = (.dead, { p with sockets := s }.closeStream) := by
          simp [receive, line, up, looked]
        rw [eq]
        exact .ended line up
      | failed =>
        have eq : p.receive = (.dead, { p with sockets := s }.closeStream) := by
          simp [receive, line, up, looked]
        rw [eq]
        exact .ended line up
      | chunk bytes =>
        have taken : p.receive = { p with sockets := s }.take bytes := by
          simp [receive, line, up, looked]
        rcases drained : (p.buffer.append bytes).drain with ⟨frames, stop, b⟩
        cases stop with
        | some e =>
          have eq : p.receive = (.dead, { p with sockets := s, buffer := b }.closeStream) := by
            rw [taken, take, Buffer.push_eq, drained]
          rw [eq]
          exact .oversized line up drained
        | none =>
          have queued : p.receive =
              { p with sockets := s, buffer := b, pending := frames }.next := by
            rw [taken, take, Buffer.push_eq, drained]
            simp [line]
          cases frames with
          | nil =>
            have eq : p.receive = (.nothing, { p with sockets := s, buffer := b }) := by
              rw [queued, next]
              simp [line]
            rw [eq]
            exact .part line up drained
          | cons f rest =>
            rw [show p.receive =
              (.frame f, { p with sockets := s, buffer := b, pending := rest }) from queued]
            exact .whole line up drained

/-! ## Runs -/

theorem Sound.connect (h : Sound max log p) :
    Sound max (log ++ p.tells .connect) (p.perform .connect) := by
  change Sound max (log ++ if p.streaming = false ∧ p.connect.2.streaming = true then [.opened]
    else []) p.connect.2
  have kept : p.connect.2.buffer = p.buffer ∧ p.connect.2.pending = p.pending := by
    unfold Pipe.connect
    split
    · exact ⟨rfl, rfl⟩
    · split
      · exact ⟨rfl, rfl⟩
      · split <;> exact ⟨rfl, rfl⟩
  split
  · rename_i came
    obtain ⟨shut, up⟩ := came
    obtain ⟨buffer, pending⟩ := h.clean shut
    refine ⟨by rw [kept.1]; exact h.limit, fun down => ?_, fun _ => ⟨[], Log.latest_opened log⟩, ?_⟩
    · rw [up] at down
      cases down
    · intro talk since
      rw [Log.latest_opened] at since
      cases since
      refine .flowing up (by simp [Log.Flowing]) ?_
      rw [kept.1, kept.2, buffer, pending]
      exact Buffer.drain_empty max
  · rename_i same
    rw [List.append_nil]
    refine h.same ?_ kept.1 kept.2
    cases up : p.streaming with
    | true => simp [Pipe.connect, up]
    | false => simpa [up] using same

theorem Sound.send (h : Sound max log p) (f : Frame) :
    Sound max (log ++ p.tells (.send f)) (p.perform (.send f)) := by
  change Sound max (log ++ if (p.send f).1.isOk then [] else [.unsent]) (p.send f).2
  unfold Pipe.send
  cases up : p.streaming with
  | false => exact h.after up rfl up (h.clean up)
  | true =>
    rcases written : Sockets.write f.encode p.sockets with ⟨ok, s⟩
    cases ok with
    | true =>
      change Sound max (log ++ []) { p with sockets := s, streaming := true }
      rw [List.append_nil]
      exact h.same up.symm rfl rfl
    | false =>
      have clean : p.buffer.clear = Buffer.empty max := congrArg Buffer.empty h.limit
      refine h.close [] .unsent up (by simp [Log.Flowing]) rfl rfl ⟨clean, rfl⟩ ?_
      intro talk account
      rw [List.append_nil]
      exact ⟨_, _, _, account, .givenUp talk (by simp) p.pending⟩

theorem Sound.receive (h : Sound max log p) :
    Sound max (log ++ p.tells .receive) (p.perform .receive) := by
  change Sound max (log ++ p.tells .receive) p.receive.2
  have drained_read {talk : Log} {chunk : Bytes} {frames : List Frame} {stop : Option Fault}
      {b : Buffer} (account : drained max talk = (talk.given ++ [], none, p.buffer))
      (more : (p.buffer.append chunk).drain = (frames, stop, b)) :
      drained max (talk ++ [.read chunk]) = (talk.given ++ frames, stop, b) := by
    have bytes : Log.bytes [.read chunk] = chunk := by simp [Log.bytes, Log.chunks, Incident.chunk?]
    have resumed := Buffer.drain_append_of_clean account chunk
    rw [Buffer.append_append, more, List.append_nil] at resumed
    rw [drained, Log.bytes_append, bytes]
    exact resumed
  have limit {chunk : Bytes} {frames : List Frame} {stop : Option Fault} {b : Buffer}
      (more : (p.buffer.append chunk).drain = (frames, stop, b)) : b.max = max := by
    have kept := (p.buffer.append chunk).max_drain
    rw [more] at kept
    exact kept.trans h.limit
  have received := p.receipt
  generalize p.tells .receive = es at received ⊢
  generalize p.receive = outcome at received ⊢
  cases received with
  | @inLine f rest line =>
    cases up : p.streaming with
    | false =>
      rw [(h.clean up).2] at line
      cases line
    | true =>
      refine h.flow up (by simp [Log.Flowing, Incident.isFlow]) rfl h.limit fun talk account => ?_
      have bytes : Log.bytes [.gave f] = [] := rfl
      have given : Log.given [.gave f] = [f] := rfl
      rw [drained, Log.bytes_append, bytes, List.append_nil, Log.given_append, given,
        List.append_assoc, List.singleton_append, ← line]
      exact account
  | shut line down => exact h.after down rfl down (h.clean down)
  | idle line up =>
    rw [List.append_nil]
    exact h.same rfl rfl rfl
  | ended line up =>
    have clean : p.buffer.clear = Buffer.empty max := congrArg Buffer.empty h.limit
    refine h.close [] .dead up (by simp [Log.Flowing]) rfl rfl ⟨clean, rfl⟩ ?_
    intro talk account
    rw [List.append_nil]
    rw [line] at account
    exact ⟨_, _, _, account, .found talk⟩
  | @whole s chunk f rest b line up more =>
    refine h.flow up (by simp [Log.Flowing, Incident.isFlow]) up (limit more) ?_
    intro talk account
    rw [line] at account
    have bytes : Log.bytes (talk ++ [.read chunk, .gave f]) =
        Log.bytes (talk ++ [.read chunk]) := by
      simp [Log.bytes, Log.chunks, Incident.chunk?]
    have given : Log.given (talk ++ [.read chunk, .gave f]) = talk.given ++ [f] := by
      rw [Log.given_append]
      rfl
    rw [drained, bytes, given, List.append_assoc]
    exact drained_read account more
  | @part s chunk b line up more =>
    refine h.flow up (by simp [Log.Flowing, Incident.isFlow]) up (limit more) ?_
    intro talk account
    rw [line] at account
    have given : Log.given (talk ++ [.read chunk]) = talk.given := by
      simp [Log.given, Incident.frame?]
    rw [drained_read account more, given, line]
  | @oversized s chunk frames e b line up more =>
    have clean : b.clear = Buffer.empty max := congrArg Buffer.empty (limit more)
    refine h.close [.read chunk] .dead up
      (by simp [Log.Flowing, Incident.isFlow]) rfl rfl ⟨clean, rfl⟩ ?_
    intro talk account
    rw [line] at account
    have given : Log.given (talk ++ [.read chunk]) = talk.given := by
      simp [Log.given, Incident.frame?]
    have before : drained max talk = (talk.given, none, p.buffer) := by
      rw [account, List.append_nil]
    refine ⟨frames, some e, b, ?_, .oversized before chunk e frames⟩
    rw [drained_read account more, given]

theorem Sound.disconnect (h : Sound max log p) :
    Sound max (log ++ p.tells .disconnect) (p.perform .disconnect) := by
  have clean : p.buffer.clear = Buffer.empty max := congrArg Buffer.empty h.limit
  cases up : p.streaming with
  | false => exact h.after up rfl rfl ⟨clean, rfl⟩
  | true =>
    refine h.close [] .hungUp up (by simp [Log.Flowing]) rfl rfl ⟨clean, rfl⟩ ?_
    intro talk account
    rw [List.append_nil]
    exact ⟨_, _, _, account, .givenUp talk (by simp) p.pending⟩

theorem Run.sound (run : Run max log p) : Sound max log p := by
  induction run with
  | made sockets => exact sound_make max sockets
  | @did log p run act ih =>
    cases act with
    | setup =>
      have kept : p.setup.2.streaming = p.streaming ∧ p.setup.2.buffer = p.buffer ∧
          p.setup.2.pending = p.pending := by
        unfold Pipe.setup
        split
        · exact ⟨rfl, rfl, rfl⟩
        · split <;> exact ⟨rfl, rfl, rfl⟩
      change Sound max (log ++ []) p.setup.2
      rw [List.append_nil]
      exact ih.same kept.1 kept.2.1 kept.2.2
    | connect => exact ih.connect
    | send f => exact ih.send f
    | receive => exact ih.receive
    | disconnect => exact ih.disconnect
  | passed run sockets ih => exact ih.same rfl rfl rfl

/-- A turn of a run: the host does something, or the sockets change. -/
def turn : Log × Pipe σ → Act ⊕ (σ → σ) → Log × Pipe σ
  | (log, p), .inl act => (log ++ p.tells act, p.perform act)
  | (log, p), .inr change => (log, { p with sockets := change p.sockets })

/-- The log and the pipe after these turns. -/
def play (max : UInt32) (sockets : σ) (turns : List (Act ⊕ (σ → σ))) : Log × Pipe σ :=
  turns.foldl turn ([], make max sockets)

theorem run_play (max : UInt32) (sockets : σ) (turns : List (Act ⊕ (σ → σ))) :
    Run max (play max sockets turns).1 (play max sockets turns).2 := by
  have run : Run max (([], make max sockets) : Log × Pipe σ).1 (([], make max sockets) :
      Log × Pipe σ).2 := .made sockets
  rw [play]
  generalize (([], make max sockets) : Log × Pipe σ) = start at run ⊢
  induction turns generalizing start with
  | nil => exact run
  | cons t turns ih =>
    refine ih (turn start t) ?_
    cases t with
    | inl act => exact run.did act
    | inr change => exact run.passed (change start.2.sockets)

/-- Somebody comes and writes this. -/
def Local.visit (bytes : Bytes) (l : Local) : Local :=
  (l.peerConnect.2.peerSend l.peers.length bytes).2

end Pipe

end HostLink
