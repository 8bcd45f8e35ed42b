import HostLink.Frame.Buffer

/-!
# HostLink.Proofs.Frame.Feed

A stream comes to a buffer in chunks. Draining a buffer that has more bytes behind its own is
draining it first and then what it has become with those bytes (`drain_append_of_clean`), unless an
oversized header stops the drain, and then more bytes change nothing (`drain_append_of_stopped`).
So chunks that are fed one after the other give what the whole stream gives at once, as long as no
header is oversized (`feed_of_clean`).

* `Buffer.feed` — pushes chunks one after the other, up to the first push that fails.
* `feed_encode` — the frames that were encoded come out again, however their bytes were cut.
-/

namespace HostLink

theorem Header.decode_append {bytes rest : Bytes} {h : Header}
    (hd : Header.decode bytes = some (h, rest)) (more : Bytes) :
    Header.decode (bytes ++ more) = some (h, rest ++ more) := by
  unfold Header.decode at hd
  split at hd
  · cases hd
    rfl
  · cases hd

/-- What is encoded is decoded, whatever comes behind it. -/
theorem Header.decode_encode (h : Header) (rest : Bytes) :
    Header.decode (h.encode ++ rest) = some (h, rest) := by
  change some ((⟨h.opcode, Bytes.toU32 _ _ _ _⟩ : Header), rest) = _
  rw [Bytes.toU32_ofU32]

namespace Frame

/-- A limit on payloads lets the frame pass. -/
def Fits (max : UInt32) (f : Frame) : Prop := f.payload.length ≤ max.toNat

instance (max : UInt32) (f : Frame) : Decidable (f.Fits max) :=
  inferInstanceAs (Decidable (f.payload.length ≤ max.toNat))

theorem Fits.toNat_length {max : UInt32} {f : Frame} (fits : f.Fits max) :
    f.header.length.toNat = f.payload.length := by
  have := max.toNat_lt
  unfold Fits at fits
  rw [header, UInt32.toNat_ofNat']
  omega

namespace Buffer

/-- The buffer with more bytes behind its own. -/
def append (more : Bytes) (b : Buffer) : Buffer := { b with bytes := b.bytes ++ more }

theorem append_nil (b : Buffer) : b.append [] = b := by
  simp [append]

theorem append_append (xs ys : Bytes) (b : Buffer) :
    (b.append xs).append ys = b.append (xs ++ ys) := by
  simp [append]

/-! ## Pulling -/

theorem pull_of_none {max : UInt32} {bytes : Bytes} (hd : Header.decode bytes = none) :
    pull ⟨max, bytes, .header⟩ = .short ⟨max, bytes, .header⟩ := by
  simp [pull, hd]

theorem pull_of_valid {max : UInt32} {bytes rest : Bytes} {h : Header}
    (hd : Header.decode bytes = some (h, rest)) (valid : h.validate max = .ok ()) :
    pull ⟨max, bytes, .header⟩ = pull ⟨max, rest, .payload h⟩ := by
  simp only [pull, hd, valid]

theorem pull_of_invalid {max : UInt32} {bytes rest : Bytes} {h : Header} {e : Fault}
    (hd : Header.decode bytes = some (h, rest)) (invalid : h.validate max = .error e) :
    pull ⟨max, bytes, .header⟩ = .oversized e := by
  simp only [pull, hd, invalid]

theorem pull_payload_short {max : UInt32} {bytes : Bytes} {h : Header} {b : Buffer}
    (hp : pull ⟨max, bytes, .payload h⟩ = .short b) : b = ⟨max, bytes, .payload h⟩ := by
  simp only [pull, pullPayload] at hp
  split at hp <;> cases hp
  rfl

theorem pull_payload_ne_oversized (max : UInt32) (bytes : Bytes) (h : Header) (e : Fault) :
    pull ⟨max, bytes, .payload h⟩ ≠ .oversized e := by
  intro hp
  simp only [pull, pullPayload] at hp
  split at hp <;> cases hp

theorem pull_payload_append {max : UInt32} {bytes : Bytes} {h : Header} {f : Frame} {b : Buffer}
    (hp : pull ⟨max, bytes, .payload h⟩ = .frame f b) (more : Bytes) :
    pull ⟨max, bytes ++ more, .payload h⟩ = .frame f (b.append more) := by
  simp only [pull, pullPayload] at hp ⊢
  split at hp
  · cases hp
  · rename_i split
    cases hp
    rw [Bytes.splitExactly_more split more]
    rfl

/-- What a buffer that waits for a header finds in its bytes, with more behind them or not. -/
inductive Front (max : UInt32) (bytes : Bytes) : Prop where
  | short (h : pull ⟨max, bytes, .header⟩ = .short ⟨max, bytes, .header⟩)
  | oversized {e : Fault} (h : ∀ more, pull ⟨max, bytes ++ more, .header⟩ = .oversized e)
  | valid {h : Header} {rest : Bytes} (same : ∀ more,
      pull ⟨max, bytes ++ more, .header⟩ = pull ⟨max, rest ++ more, .payload h⟩)

theorem front (max : UInt32) (bytes : Bytes) : Front max bytes := by
  cases hd : Header.decode bytes with
  | none => exact .short (pull_of_none hd)
  | some decoded =>
    obtain ⟨h, rest⟩ := decoded
    cases valid : h.validate max with
    | error e =>
      exact .oversized fun more => pull_of_invalid (Header.decode_append hd more) valid
    | ok _ => exact .valid fun more => pull_of_valid (Header.decode_append hd more) valid

/-- More bytes do not change the frame that is there. -/
theorem pull_frame_append {b b' : Buffer} {f : Frame} (hp : b.pull = .frame f b') (more : Bytes) :
    (b.append more).pull = .frame f (b'.append more) := by
  obtain ⟨max, bytes, stage⟩ := b
  cases stage with
  | payload h => exact pull_payload_append hp more
  | header =>
    cases front max bytes with
    | short short =>
      rw [short] at hp
      cases hp
    | oversized oversized =>
      have now := oversized []
      rw [List.append_nil, hp] at now
      cases now
    | valid same =>
      have now := same []
      rw [List.append_nil, List.append_nil, hp] at now
      rw [append, same]
      exact pull_payload_append now.symm more

theorem pull_oversized_append {b : Buffer} {e : Fault} (hp : b.pull = .oversized e)
    (more : Bytes) : (b.append more).pull = .oversized e := by
  obtain ⟨max, bytes, stage⟩ := b
  cases stage with
  | payload h => exact absurd hp (pull_payload_ne_oversized max bytes h e)
  | header =>
    cases front max bytes with
    | short short =>
      rw [short] at hp
      cases hp
    | oversized oversized =>
      have now := oversized []
      rw [List.append_nil, hp] at now
      cases now
      exact oversized more
    | valid same =>
      have now := same []
      rw [List.append_nil, hp] at now
      exact absurd now.symm (pull_payload_ne_oversized max _ _ e)

theorem max_pull (b : Buffer) :
    (∀ b', b.pull = .short b' → b'.max = b.max) ∧
      ∀ f b', b.pull = .frame f b' → b'.max = b.max := by
  obtain ⟨max, bytes, stage⟩ := b
  have payload (h : Header) (bytes : Bytes) :
      (∀ b', pullPayload max h bytes = .short b' → b'.max = max) ∧
        ∀ f b', pullPayload max h bytes = .frame f b' → b'.max = max := by
    unfold pullPayload
    split <;> simp_all
  unfold pull
  cases stage with
  | payload h => exact payload h bytes
  | header =>
    dsimp only
    split
    · simp
    · split
      · simp
      · exact payload _ _

/-! ## Draining -/

theorem drain_short {b b' : Buffer} (hp : b.pull = .short b') : b.drain = ([], none, b') := by
  rw [drain_eq, hp]

theorem drain_oversized {b : Buffer} {e : Fault} (hp : b.pull = .oversized e) :
    b.drain = ([], some e, b) := by
  rw [drain_eq, hp]

theorem drain_frame {b b' : Buffer} {f : Frame} (hp : b.pull = .frame f b') :
    b.drain = (f :: b'.drain.1, b'.drain.2) := by
  rw [drain_eq, hp]

theorem max_drain (b : Buffer) : b.drain.2.2.max = b.max := by
  induction b using drain.induct with
  | case1 b b' hp =>
    rw [drain_short hp]
    exact b.max_pull.1 b' hp
  | case2 b e hp => rw [drain_oversized hp]
  | case3 b f b' hp _ _ _ _ ih =>
    rw [drain_frame hp]
    exact ih.trans (b.max_pull.2 f b' hp)

theorem drain_eq_of_pull {b b' : Buffer} (same : b.pull = b'.pull)
    (good : ∀ e, b'.pull ≠ .oversized e) : b.drain = b'.drain := by
  cases hp : b'.pull with
  | short b'' => rw [drain_short hp, drain_short (same.trans hp)]
  | frame f b'' => rw [drain_frame hp, drain_frame (same.trans hp)]
  | oversized e => exact absurd hp (good e)

/-- A buffer that has learnt its header goes on as if it had not. -/
theorem drain_append_of_short {b b' : Buffer} (hp : b.pull = .short b') (more : Bytes) :
    (b.append more).drain = (b'.append more).drain := by
  obtain ⟨max, bytes, stage⟩ := b
  cases stage with
  | payload h => rw [pull_payload_short hp]
  | header =>
    cases front max bytes with
    | short short =>
      rw [short] at hp
      cases hp
      rfl
    | oversized oversized =>
      have now := oversized []
      rw [List.append_nil, hp] at now
      cases now
    | valid same =>
      have now := same []
      rw [List.append_nil, List.append_nil, hp] at now
      rw [pull_payload_short now.symm]
      exact drain_eq_of_pull (same more) (pull_payload_ne_oversized max _ _)

/-- A drain that nothing has stopped goes on with more bytes where it ended. -/
theorem drain_append_of_clean {b b' : Buffer} {frames : List Frame}
    (h : b.drain = (frames, none, b')) (more : Bytes) : (b.append more).drain =
      (frames ++ (b'.append more).drain.1, (b'.append more).drain.2) := by
  induction b using drain.induct generalizing frames with
  | case1 b b₁ hp =>
    -- `b'` may have learnt a header from bytes that `b` still has
    rw [drain_short hp] at h
    cases h
    exact drain_append_of_short hp more
  | case2 b e hp =>
    rw [drain_oversized hp] at h
    cases h
  | case3 b f b₁ hp _ _ _ _ ih =>
    rw [drain_frame hp] at h
    obtain ⟨rfl, rest⟩ := Prod.mk.inj h
    rw [drain_frame (pull_frame_append hp more), ih (Prod.ext rfl rest)]
    rfl

theorem drain_append_of_stopped {b b' : Buffer} {frames : List Frame} {e : Fault}
    (h : b.drain = (frames, some e, b')) (more : Bytes) :
    (b.append more).drain = (frames, some e, b'.append more) := by
  induction b using drain.induct generalizing frames with
  | case1 b b₁ hp =>
    rw [drain_short hp] at h
    cases h
  | case2 b e hp =>
    rw [drain_oversized hp] at h
    cases h
    exact drain_oversized (pull_oversized_append hp more)
  | case3 b f b₁ hp _ _ _ _ ih =>
    rw [drain_frame hp] at h
    obtain ⟨rfl, rest⟩ := Prod.mk.inj h
    rw [drain_frame (pull_frame_append hp more), ih (Prod.ext rfl rest)]

theorem drain_drained {b b' : Buffer} {frames : List Frame} (h : b.drain = (frames, none, b')) :
    b'.drain = ([], none, b') := by
  have again := drain_append_of_clean h []
  rw [append_nil, append_nil, h] at again
  obtain ⟨same, rest⟩ := Prod.mk.inj again
  exact Prod.ext (List.self_eq_append_right.mp same) rest.symm

/-! ## Chunks -/

/-- Pushes chunks one after the other, up to the first push that fails; the frames that the pushes
gave, the fault, and the buffer afterwards. -/
def feed : List Bytes → Buffer → List Frame × Option Fault × Buffer
  | [], b => ([], none, b)
  | chunk :: chunks, b =>
    match b.push chunk with
    | (.error e, b') => ([], some e, b')
    | (.ok frames, b') =>
      match feed chunks b' with
      | (later, stop, last) => (frames ++ later, stop, last)

theorem push_eq (chunk : Bytes) (b : Buffer) : b.push chunk = match (b.append chunk).drain with
    | (frames, none, b') => (.ok frames, b')
    | (_, some e, b') => (.error e, b') := rfl

theorem feed_cons_of_clean {b b' : Buffer} {chunk : Bytes} {frames : List Frame}
    (h : (b.append chunk).drain = (frames, none, b')) (chunks : List Bytes) :
    b.feed (chunk :: chunks) = (frames ++ (b'.feed chunks).1, (b'.feed chunks).2) := by
  rw [feed, push_eq, h]

theorem feed_cons_of_stopped {b b' : Buffer} {chunk : Bytes} {frames : List Frame} {e : Fault}
    (h : (b.append chunk).drain = (frames, some e, b')) (chunks : List Bytes) :
    b.feed (chunk :: chunks) = ([], some e, b') := by
  rw [feed, push_eq, h]

theorem feed_of_clean {b last : Buffer} {chunks : List Bytes} {frames : List Frame}
    (drained : b.drain = ([], none, b))
    (h : (b.append chunks.flatten).drain = (frames, none, last)) :
    b.feed chunks = (frames, none, last) := by
  induction chunks generalizing b frames with
  | nil =>
    rw [List.flatten_nil, append_nil, drained] at h
    exact h
  | cons chunk chunks ih =>
    rw [List.flatten_cons, ← append_append] at h
    rcases hd : (b.append chunk).drain with ⟨first, stop, b'⟩
    cases stop with
    | some e =>
      rw [drain_append_of_stopped hd] at h
      cases h
    | none =>
      rw [drain_append_of_clean hd] at h
      obtain ⟨rfl, rest⟩ := Prod.mk.inj h
      rw [feed_cons_of_clean hd, ih (drain_drained hd) (Prod.ext rfl rest)]

/-! ## Frames -/

theorem pull_encode {max : UInt32} {f : Frame} (fits : f.Fits max) (rest : Bytes) :
    pull ⟨max, f.encode ++ rest, .header⟩ = .frame f ⟨max, rest, .header⟩ := by
  have size := fits.toNat_length
  have valid : f.header.validate max = .ok () := by
    refine if_neg ?_
    rw [UInt32.lt_iff_toNat_lt, size]
    exact Nat.not_lt.mpr fits
  have decoded : Header.decode (f.encode ++ rest) = some (f.header, f.payload ++ rest) := by
    rw [encode, List.append_assoc]
    exact Header.decode_encode f.header (f.payload ++ rest)
  rw [pull_of_valid decoded valid]
  simp only [pull, pullPayload]
  rw [size, Bytes.splitExactly_append]
  rfl

/-- Frames that fit come out in order, and draining goes on behind them. -/
theorem drain_encode {max : UInt32} {frames : List Frame} (fit : ∀ f ∈ frames, f.Fits max)
    (rest : Bytes) : drain ⟨max, frames.flatMap Frame.encode ++ rest, .header⟩ =
      (frames ++ (drain ⟨max, rest, .header⟩).1, (drain ⟨max, rest, .header⟩).2) := by
  induction frames with
  | nil => rfl
  | cons f frames ih =>
    obtain ⟨first, others⟩ := List.forall_mem_cons.mp fit
    rw [List.flatMap_cons, List.append_assoc, drain_frame (pull_encode first _), ih others]
    rfl

theorem drain_empty (max : UInt32) : (empty max).drain = ([], none, empty max) :=
  drain_short rfl

/-- However the bytes of frames within the limit are cut into chunks, no push fails, the frames
come out in order, and in the end the buffer is as it was in the beginning. -/
theorem feed_encode {max : UInt32} {frames : List Frame} {chunks : List Bytes}
    (fit : ∀ f ∈ frames, f.Fits max) (cut : chunks.flatten = frames.flatMap Frame.encode) :
    (empty max).feed chunks = (frames, none, empty max) := by
  refine feed_of_clean (drain_empty max) ?_
  have drained := drain_encode fit []
  change drain ⟨max, chunks.flatten, .header⟩ = _
  rw [cut, ← List.append_nil (frames.flatMap Frame.encode), drained]
  change (frames ++ (empty max).drain.1, (empty max).drain.2) = _
  rw [drain_empty, List.append_nil]

/-- A ping and the text of a print, cut inside the first header, between the second header and its
payload, and inside that payload, with an empty chunk among them. -/
theorem feed_ping_print :
    (∀ f ∈ [Frame.empty Opcode.ping, ⟨Opcode.print, [104, 105]⟩], f.Fits 16) ∧
      [[1, 0], [], [0, 0, 0, 2, 2, 0, 0, 0], [104], [105]].flatten =
        [Frame.empty Opcode.ping, ⟨Opcode.print, [104, 105]⟩].flatMap Frame.encode ∧
      (empty 16).feed [[1, 0], [], [0, 0, 0, 2, 2, 0, 0, 0], [104], [105]] =
        ([Frame.empty Opcode.ping, ⟨Opcode.print, [104, 105]⟩], none, empty 16) :=
  ⟨by decide, rfl, feed_encode (by decide) rfl⟩

end Buffer

end Frame

end HostLink
