import Mathlib.Data.List.Basic
import HostLink.Proofs.Pipe.Run

/-!
# HostLink.Proofs.Pipe.Isolation

Nothing passes from one connection of a pipe to the next. While no stream is open the buffer waits
for the first byte of a header and nobody is in line; so whatever a connection has left behind when
it ended, the bytes of the next one are read from their beginning, and a frame that is given comes
from the stream that is open (`isolated`).
-/

namespace HostLink

open HostLink.Frame (Buffer Reading)

namespace Pipe

/-- On a connection on which nothing but this has happened, `f` is the next frame of the bytes that
were read. -/
def Log.Yields (max : UInt32) (talk : Log) (f : Frame) : Prop :=
  talk.Flowing ∧ ∃ frames rest stop, Reading max talk.bytes frames rest stop ∧
    talk.given ++ [f] <+: frames

variable {σ : Type} {max : UInt32} {log talk : Log} {p q : Pipe σ}

theorem Sound.yields {f : Frame} (h : Sound max (log ++ [.gave f]) q)
    (since : log.latest = some talk) : talk.Yields max f := by
  have now : Log.latest (log ++ [.gave f]) = some (talk ++ [.gave f]) := by
    rw [Log.latest_more (by simp), since, Option.map_some]
  have connection := h.connection _ now
  generalize whole : talk ++ [.gave f] = all at connection
  cases connection with
  | flowing up flow account =>
    subst whole
    have bytes : Log.bytes (talk ++ [.gave f]) = talk.bytes := by
      simp [Log.bytes, Log.chunks, Incident.chunk?]
    rw [drained, bytes, Log.given_append] at account
    obtain ⟨rest, reading⟩ := Buffer.reading_of_drain account
    refine ⟨fun e mem => flow e (List.mem_append_left _ mem), _, rest, none, reading, ?_⟩
    exact List.prefix_append _ _
  | @past _ rest e _ _ _ down flow ends =>
    -- what came last would be something that ends the connection
    have last := congrArg List.getLast? whole
    rw [List.getLast?_concat, List.getLast?_append_cons] at last
    cases ends _ (List.mem_of_getLast? last.symm)

variable [Sockets σ]

/-- A receive adds at most one frame to the log, as the last thing, and only if the stream is open
or somebody is in line. -/
theorem Receipt.gave {es : Log} {out : Received × Pipe σ} (h : Receipt p es out) :
    (∀ e ∈ es, e ≠ .opened) ∧ (∀ e ∈ es.dropLast, e.frame? = none) ∧
      ∀ f, .gave f ∈ es → p.pending ≠ [] ∨ p.streaming = true := by
  cases h with
  | inLine line => simp [line]
  | shut => simp
  | idle => simp
  | ended => simp
  | whole line up => simp [up, Incident.frame?]
  | part line up => simp
  | oversized line up => simp [Incident.frame?]

theorem tells_gave {act : Act} {f : Frame} {before after : Log}
    (split : p.tells act = before ++ .gave f :: after) :
    act = .receive ∧ after = [] ∧ (∀ e ∈ before, e ≠ .opened) ∧
      (p.pending ≠ [] ∨ p.streaming = true) := by
  have mem : Incident.gave f ∈ p.tells act := by simp [split]
  cases act with
  | receive =>
    obtain ⟨same, single, source⟩ := p.receipt.gave
    refine ⟨rfl, ?_, fun e front => same e (by simp [split, front]), source f mem⟩
    cases after with
    | nil => rfl
    | cons e after =>
      have early : Incident.gave f ∈ (p.tells .receive).dropLast := by simp [split]
      cases single _ early
  | setup => simp [tells] at mem
  | connect => simp only [tells] at mem; split at mem <;> simp at mem
  | send f' => simp only [tells] at mem; split at mem <;> simp at mem
  | disconnect => simp [tells] at mem

/-- A frame that is given is the next frame of the bytes read from the stream that is open. -/
theorem Run.yields (run : Run max log p) {before after : Log} {f : Frame}
    (split : log = before ++ .gave f :: after) :
    ∃ talk, before.latest = some talk ∧ talk.Yields max f := by
  induction run generalizing after with
  | made sockets => cases before <;> cases split
  | passed run sockets ih => exact ih split
  | @did log p run act ih =>
    have told {front : Log} (told : p.tells act = front ++ .gave f :: after) :
        ∃ talk, (log ++ front).latest = some talk ∧ talk.Yields max f := by
      obtain ⟨rfl, rfl, same, source⟩ := tells_gave told
      have up : p.streaming = true := by
        cases down : p.streaming with
        | true => rfl
        | false =>
          obtain ⟨-, nobody⟩ := run.sound.clean down
          simp [nobody, down] at source
      obtain ⟨talk, since⟩ := run.sound.opened up
      have now : (log ++ front).latest = some (talk ++ front) := by
        rw [Log.latest_more same, since, Option.map_some]
      have sound := (run.did .receive).sound
      rw [told, ← List.append_assoc] at sound
      exact ⟨_, now, sound.yields now⟩
    rcases List.append_eq_append_iff.mp split with ⟨front, rfl, here⟩ | ⟨later, rfl, here⟩
    · exact told here
    · cases later with
      | nil =>
        have all := told (show p.tells act = [] ++ .gave f :: after from here.symm)
        simpa using all
      | cons e later =>
        cases here
        exact ih rfl

/-- While no stream is open, the buffer waits for a header's first byte and nobody is in line. So
what is in the buffer and in line is what a fresh buffer makes of the bytes read since the stream
was opened, and every frame that was ever given is the next frame of the bytes that had been read
from the stream open at that time. -/
theorem isolated (run : Run max log p) :
    (p.streaming = false → p.buffer = .empty max ∧ p.pending = []) ∧
      (p.streaming = true → ∃ talk, log.latest = some talk ∧ talk.Flowing ∧
        (Buffer.empty max).feed talk.chunks = (talk.given ++ p.pending, none, p.buffer)) ∧
      ∀ (before after : Log) (f : Frame), log = before ++ .gave f :: after →
        ∃ talk, before.latest = some talk ∧ talk.Yields max f := by
  refine ⟨run.sound.clean, fun up => ?_, fun before after f split => run.yields split⟩
  obtain ⟨talk, since⟩ := run.sound.opened up
  cases run.sound.connection talk since with
  | flowing _ flow account =>
    exact ⟨talk, since, flow, Buffer.feed_of_clean (Buffer.drain_empty max) account⟩
  | past down =>
    rw [down] at up
    cases up

/-- Somebody leaves in the middle of a header, and whoever comes next sends a ping. -/
def visited : Log × Pipe Local :=
  play 16 (Local.initial true) [.inl .setup, .inr (Local.visit [4, 0]), .inl .connect,
    .inl .receive, .inr (Local.peerClose 0), .inl .receive, .inr (Local.visit [1, 0, 0, 0, 0]),
    .inl .connect, .inl .receive]

theorem isolated_visited :
    Run 16 visited.1 visited.2 ∧
      visited.1 = [.opened, .read [4, 0], .dead, .opened, .read [1, 0, 0, 0, 0]] ++
        [.gave (Frame.empty Opcode.ping)] ∧
      Log.Yields 16 [.read [1, 0, 0, 0, 0]] (Frame.empty Opcode.ping) := by
  have told : visited.1 = [.opened, .read [4, 0], .dead, .opened, .read [1, 0, 0, 0, 0]] ++
      [.gave (Frame.empty Opcode.ping)] := by
    decide +kernel
  have run : Run 16 visited.1 visited.2 := run_play ..
  obtain ⟨talk, since, yields⟩ := (isolated run).2.2 _ [] _ told
  cases since
  exact ⟨run, told, yields⟩

end Pipe

end HostLink
