import Mathlib.Data.List.Basic
import HostLink.Proofs.Pipe.Run

/-!
# HostLink.Proofs.Pipe.Delivery

What becomes of the frames of a connection. While the stream is open, those that were given and
those in line are all there are, in their order. A connection that is found dead has given all of
them, unless a send had failed before while frames were in line: a send that fails ends the
connection and gives the line up (`frames_delivered`, `exists_given_up`).
-/

namespace HostLink

open HostLink.Frame (Buffer Reading)

namespace Pipe

/-- Every complete frame of the bytes that were read has been given. -/
def Log.UpToDate (max : UInt32) (log : Log) : Prop :=
  ∃ rest stop, Reading max log.bytes log.given rest stop

/-! ## When a connection is over -/

variable {σ : Type} {max : UInt32} {log talk ends : Log} {p : Pipe σ}

theorem Log.after_ends (talk : Log) (closed : ∀ e ∈ ends, e.isEnd = true) :
    Log.bytes (talk ++ ends) = talk.bytes ∧ Log.given (talk ++ ends) = talk.given := by
  rw [Log.bytes_append, Log.given_append, Log.bytes_ends closed, Log.given_ends closed]
  simp

/-- What is neither bytes coming in nor a frame going out comes after all that is. -/
theorem Log.split_ends {pre post : Log} {e : Incident} (flow : talk.Flowing)
    (other : e.isFlow = false) (split : talk ++ ends = pre ++ e :: post) :
    ∃ more, pre = talk ++ more ∧ ends = more ++ e :: post := by
  rcases List.append_eq_append_iff.mp split with ⟨more, front, back⟩ | ⟨later, front, back⟩
  · exact ⟨more, front, back⟩
  · cases later with
    | nil => exact ⟨[], by simpa using front.symm, by simpa using back.symm⟩
    | cons _ later =>
      cases back
      have flowing : e.isFlow = true := flow e (by simp [front])
      rw [other] at flowing
      cases flowing

theorem Log.upToDate_ends {more : Log} (closed : ∀ e ∈ more, e.isEnd = true) :
    Log.UpToDate max (talk ++ more) ↔ talk.UpToDate max := by
  rw [UpToDate, UpToDate, (after_ends talk closed).1, (after_ends talk closed).2]

/-- A connection that is found dead loses nothing, nor does one that a send ends when all has been
given. -/
theorem Parting.lost_eq_nil {e : Incident} {lost : List Frame} {rest : Log} {bytes : Bytes}
    (parting : Parting max talk e none lost) (ends : ∀ e' ∈ e :: rest, e'.isEnd = true)
    (reading : Reading max talk.bytes (talk.given ++ lost) bytes none)
    (unhung : e ≠ .hungUp) (sent : e = .unsent → talk.UpToDate max) : lost = [] := by
  cases parting with
  | found => rfl
  | givenUp _ other line =>
    cases e with
    | unsent =>
      obtain ⟨rest', stop', told⟩ := sent rfl
      have same := (Buffer.reading_unique told reading).1
      simpa using same
    | dead => exact absurd rfl other
    | hungUp => exact absurd rfl unhung
    | _ => cases ends _ List.mem_cons_self

/-- With more bytes come more frames. -/
theorem drained_mono (more : Log) {frames : List Frame} {b : Buffer}
    (before : drained max log = (frames, none, b)) : frames <+: (drained max (log ++ more)).1 := by
  have after := Buffer.drain_append_of_clean before more.bytes
  rw [Buffer.append_append, ← Log.bytes_append] at after
  rw [drained, after]
  exact List.prefix_append _ _

/-- What has happened by some time, of a talk and its ends, was before the last chunk or has all the
bytes. -/
theorem Log.prefix_chunk {earlier : Log} {chunk : Bytes} (closed : ∀ e ∈ ends, e.isEnd = true)
    (early : earlier <+: talk ++ [.read chunk] ++ ends) :
    earlier <+: talk ∨ earlier.bytes = Log.bytes (talk ++ [.read chunk]) := by
  obtain ⟨later, split⟩ := early
  rw [List.append_assoc] at split
  rcases List.append_eq_append_iff.mp split with ⟨more, whole, -⟩ | ⟨more, front, back⟩
  · exact .inl ⟨more, whole.symm⟩
  · cases more with
    | nil => exact .inl (by simp [front])
    | cons e more =>
      cases back
      have last : ∀ e ∈ more, e.isEnd = true := fun e mem => closed e (by simp [mem])
      have same := (Log.after_ends (talk ++ [.read chunk]) last).1
      exact .inr (by rw [front, ← same]; simp)

/-- If all frames had been read before the fault was, none was in line when it was. -/
theorem Parting.lost_eq_nil_of_earlier {earlier : Log} {e : Incident} {stop : Fault}
    {lost : List Frame} {rest : Log} {bytes part : Bytes}
    (parting : Parting max talk e (some stop) lost) (ends : ∀ e' ∈ e :: rest, e'.isEnd = true)
    (reading : Reading max talk.bytes (talk.given ++ lost) bytes (some stop))
    (early : earlier <+: talk ++ e :: rest)
    (whole : Reading max earlier.bytes (talk.given ++ lost) part none) : lost = [] := by
  cases parting with
  | @oversized talk b account chunk =>
    have given : Log.given (talk ++ [.read chunk]) = talk.given := by
      simp [Log.given, Incident.frame?]
    rcases Log.prefix_chunk ends early with ⟨more, rfl⟩ | same
    · obtain ⟨last, drained⟩ := Buffer.drain_reading whole
      have known : Log.given (earlier ++ more) ++ lost <+: Log.given (earlier ++ more) := by
        have known := drained_mono more drained
        rwa [given, account] at known
      have short := known.length_le
      rw [List.length_append] at short
      exact List.length_eq_zero_iff.mp (by omega)
    · rw [same] at whole
      obtain ⟨-, -, clean⟩ := Buffer.reading_unique reading whole
      cases clean

/-! ## Receiving what is in line -/

variable [Sockets σ]

/-- What so many receives give, one after the other. -/
def receives : Nat → Pipe σ → List Received
  | 0, _ => []
  | n + 1, p => p.receive.1 :: receives n p.receive.2

theorem receives_pending (p : Pipe σ) :
    p.receives p.pending.length = p.pending.map .frame := by
  cases line : p.pending with
  | nil => rfl
  | cons f rest =>
    have eq : p.receive = (.frame f, { p with pending := rest }) := by simp [receive, line]
    have later := receives_pending { p with pending := rest }
    rw [List.length_cons, receives, eq, List.map_cons]
    exact congrArg _ later
termination_by p.pending.length
decreasing_by simp [line]

/-! ## What is given -/

/-- The frames that were given are always the first of those in the bytes read, in their order.
While the stream is open, those in line are the others, and the next receives give them. Where the
connection is found dead and the host has not ended it, all were given exactly if none was in line
when a send failed; a send that fails ends the connection, so that whatever is received after it is
death. An oversized header makes no difference to this, unless a frame came to its end in the chunk
in which the header did. -/
theorem frames_delivered (run : Run max log p) (since : log.latest = some talk) :
    ∃ frames rest stop, Reading max talk.bytes frames rest stop ∧ talk.given <+: frames ∧
      (p.streaming = true →
        talk.given ++ p.pending = frames ∧
          p.receives p.pending.length = p.pending.map .frame) ∧
      (∀ before after : Log, talk = before ++ .dead :: after → .hungUp ∉ before →
        (∃ (earlier : Log) (part : Bytes), earlier <+: talk ∧
          Reading max earlier.bytes frames part none) →
        (talk.given = frames ↔
          ∀ pre post : Log, talk = pre ++ .unsent :: post → pre.UpToDate max)) ∧
      (.unsent ∈ talk → p.receive = (.dead, p)) := by
  cases run.sound.connection talk since with
  | flowing up flow account =>
    obtain ⟨rest, reading⟩ := Buffer.reading_of_drain account
    refine ⟨_, rest, none, reading, List.prefix_append _ _, fun _ => ⟨rfl, p.receives_pending⟩,
      ?_, ?_⟩
    · rintro before after rfl
      have := flow .dead (by simp)
      cases this
    · intro failed
      have := flow .unsent failed
      cases this
  | @past talk ended e lost stop _ down flow ends account parting =>
    obtain ⟨rest, reading⟩ := Buffer.reading_of_drain account
    obtain ⟨bytes, given⟩ := Log.after_ends talk ends
    rw [bytes, given]
    refine ⟨_, rest, stop, reading, List.prefix_append _ _, ?_, ?_, ?_⟩
    · intro up
      rw [down] at up
      cases up
    · rintro before after found unhung ⟨earlier, part, early, told⟩
      constructor
      · intro whole pre post split
        obtain ⟨more, rfl, back⟩ := Log.split_ends flow rfl split
        rw [Log.upToDate_ends fun e' mem => ends e' (by simp [back, mem])]
        exact ⟨rest, stop, whole ▸ reading⟩
      · intro sent
        have stays : e ≠ .hungUp := by
          rintro rfl
          obtain ⟨more, rfl, back⟩ := Log.split_ends flow rfl found
          cases more with
          | nil => cases back
          | cons _ more =>
            cases back
            simp at unhung
        have all : lost = [] := by
          cases stop with
          | none =>
            refine parting.lost_eq_nil ends reading stays fun failed => ?_
            subst failed
            exact sent talk ended rfl
          | some fault => exact parting.lost_eq_nil_of_earlier ends reading early told
        rw [all, List.append_nil]
    · intro _
      simp [receive, down, (run.sound.clean down).2]

/-- A ping and a disconnect come in one chunk. -/
def pair : Bytes := [1, 0, 0, 0, 0, 9, 0, 0, 0, 0]

theorem reading_pair :
    Reading 16 pair [Frame.empty Opcode.ping, Frame.empty Opcode.disconnect] [] none :=
  ⟨rfl, by decide, .header (by decide)⟩

/-- The peer leaves when the ping has been received; then there is one more receive than this. -/
def left (meanwhile : List (Act ⊕ (Local → Local))) : Log × Pipe Local :=
  play 16 (Local.initial true) <|
    [.inl .setup, .inr (Local.visit pair), .inl .connect, .inl .receive,
      .inr (Local.peerClose 0)] ++ meanwhile ++ [.inl .receive]

theorem frames_delivered_left :
    Run 16 (left [.inl .receive]).1 (left [.inl .receive]).2 ∧
      (left [.inl .receive]).1.latest = some [.read pair, .gave (Frame.empty Opcode.ping),
        .gave (Frame.empty Opcode.disconnect), .dead] ∧
      Reading 16 pair [Frame.empty Opcode.ping, Frame.empty Opcode.disconnect] [] none ∧
      Log.given [.read pair, .gave (Frame.empty Opcode.ping),
        .gave (Frame.empty Opcode.disconnect), .dead] =
          [Frame.empty Opcode.ping, Frame.empty Opcode.disconnect] := by
  have run : Run 16 (left [.inl .receive]).1 (left [.inl .receive]).2 := run_play ..
  have since : (left [.inl .receive]).1.latest = some [.read pair, .gave (Frame.empty Opcode.ping),
      .gave (Frame.empty Opcode.disconnect), .dead] := by
    decide +kernel
  refine ⟨run, since, reading_pair, ?_⟩
  obtain ⟨frames, rest, stop, reading, -, -, found, -⟩ := frames_delivered run since
  obtain ⟨rfl, rfl, rfl⟩ := Buffer.reading_unique reading_pair reading
  refine (found [.read pair, .gave (Frame.empty Opcode.ping),
    .gave (Frame.empty Opcode.disconnect)] [] rfl (by decide)
      ⟨_, [], List.prefix_refl _, reading_pair⟩).mpr fun pre post split => ?_
  have failed : Incident.unsent ∈ pre ++ .unsent :: post := by simp
  rw [← split] at failed
  simp at failed

/-- The peer has gone, and the host sends a pong: the disconnect that came with the ping is never
received. -/
theorem exists_given_up :
    Run 16 (left [.inl (.send (Frame.empty Opcode.pong))]).1
        (left [.inl (.send (Frame.empty Opcode.pong))]).2 ∧
      (left [.inl (.send (Frame.empty Opcode.pong))]).1.latest =
        some [.read pair, .gave (Frame.empty Opcode.ping), .unsent, .dead] ∧
      Reading 16 pair [Frame.empty Opcode.ping, Frame.empty Opcode.disconnect] [] none ∧
      Log.given [.read pair, .gave (Frame.empty Opcode.ping), .unsent, .dead] =
        [Frame.empty Opcode.ping] :=
  ⟨run_play .., by decide +kernel, reading_pair, rfl⟩

end Pipe

end HostLink
