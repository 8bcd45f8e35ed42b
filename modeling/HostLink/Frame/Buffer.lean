import HostLink.Frame.Basic

/-!
# HostLink.Frame.Buffer

Putting frames together again from chunks of a byte stream. The buffer is at one of two stages: it
waits for a header, or it has one and waits for the payload.

* `Buffer.pull` — takes one frame out, if it is all there.
* `Buffer.drain` — takes out every frame that is all there, up to an oversized header.
* `Buffer.push` — appends a chunk and drains. When it meets an oversized header it fails, and the
  frames drained in that push are dropped with it; the header stays, so later pushes fail too.
-/

namespace HostLink.Frame

/-- What a buffer waits for. -/
inductive Stage where
  | header
  | payload (h : Header)
  deriving DecidableEq, Repr

/-- Bytes received and not yet turned into frames. -/
structure Buffer where
  max : UInt32
  bytes : Bytes
  stage : Stage
  deriving DecidableEq, Repr

/-- The limit on payloads where none is given. -/
def defaultMaxPayload : UInt32 := 20000

/-- The outcome of looking for a frame at the front of a buffer. -/
inductive Pull where
  /-- Not enough bytes; the buffer may have learnt its header. -/
  | short (rest : Buffer)
  /-- A frame, and the buffer behind it. -/
  | frame (f : Frame) (rest : Buffer)
  | oversized (e : Fault)
  deriving DecidableEq, Repr

namespace Buffer

/-- A buffer with nothing in it. -/
def empty (max : UInt32) : Buffer := ⟨max, [], .header⟩

def length (b : Buffer) : Nat := b.bytes.length

/-- Forgets everything received. -/
def clear (b : Buffer) : Buffer := empty b.max

/-- Takes the payload that `h` announces off the front of `bytes`. -/
def pullPayload (max : UInt32) (h : Header) (bytes : Bytes) : Pull :=
  match Bytes.splitExactly h.length.toNat bytes with
  | none => .short ⟨max, bytes, .payload h⟩
  | some (payload, rest) => .frame ⟨h.opcode, payload⟩ ⟨max, rest, .header⟩

def pull (b : Buffer) : Pull :=
  match b.stage with
  | .payload h => pullPayload b.max h b.bytes
  | .header =>
    match Header.decode b.bytes with
    | none => .short b
    | some (h, rest) =>
      match h.validate b.max with
      | .error e => .oversized e
      | .ok () => pullPayload b.max h rest

/-- How much a buffer has left to give: two for each byte, and one for a header already read. -/
def weight (b : Buffer) : Nat :=
  2 * b.bytes.length + match b.stage with
    | .header => 0
    | .payload _ => 1

theorem length_of_decode {bytes rest : Bytes} {h : Header}
    (hd : Header.decode bytes = some (h, rest)) : bytes.length = rest.length + 5 := by
  unfold Header.decode at hd
  split at hd <;> cases hd
  rfl

theorem weight_pullPayload {max : UInt32} {h : Header} {bytes : Bytes} {f : Frame} {b : Buffer}
    (hp : pullPayload max h bytes = .frame f b) : b.weight ≤ 2 * bytes.length := by
  unfold pullPayload at hp
  split at hp <;> cases hp
  rename_i payload rest heq
  obtain ⟨rfl, -⟩ := Bytes.splitExactly_eq_some heq
  rw [List.length_append]
  show 2 * rest.length + 0 ≤ 2 * (payload.length + rest.length)
  omega

/-- Each frame pulled makes a buffer lighter. -/
theorem weight_pull {b b' : Buffer} {f : Frame} (hp : b.pull = .frame f b') :
    b'.weight < b.weight := by
  unfold pull at hp
  split at hp
  · rename_i h hs
    have hw := weight_pullPayload hp
    simp only [weight, hs] at hw ⊢
    omega
  · rename_i hs
    split at hp
    · cases hp
    · rename_i h rest hd
      split at hp
      · cases hp
      · have hw := weight_pullPayload hp
        have hl := length_of_decode hd
        simp only [weight, hs] at hw ⊢
        omega

/-- Every frame that is all there, what stopped the search, and the buffer it stopped at. -/
def drain (b : Buffer) : List Frame × Option Fault × Buffer :=
  match _h : b.pull with
  | .short b' => ([], none, b')
  | .oversized e => ([], some e, b)
  | .frame f b' =>
    match drain b' with
    | (fs, stop, last) => (f :: fs, stop, last)
termination_by b.weight
decreasing_by exact weight_pull ‹_›

/-- Draining is pulling once and draining what is left. -/
theorem drain_eq (b : Buffer) : b.drain = match b.pull with
    | .short b' => ([], none, b')
    | .oversized e => ([], some e, b)
    | .frame f b' => (f :: b'.drain.1, b'.drain.2) := by
  rw [drain]
  split <;> rename_i h <;> rw [h]

def push (chunk : Bytes) (b : Buffer) : Except Fault (List Frame) × Buffer :=
  match drain { b with bytes := b.bytes ++ chunk } with
  | (frames, none, b') => (.ok frames, b')
  | (_, some e, b') => (.error e, b')

end Buffer

end HostLink.Frame
