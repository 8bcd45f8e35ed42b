import HostLink.Proofs.Frame.Feed

/-!
# HostLink.Proofs.Frame.Stream

What any stream of bytes says, whether it is well-formed or not: frames within the limit, and behind
them something that is no such frame (`Ending`), which is too short or begins with an oversized
header. Every stream has such a reading, and only one.

However a stream is cut into chunks, feeding them ends as the stream's reading does. The frames that
come out are not always all of its frames: a push that meets an oversized header forgets the frames
before it that came in the same push. So all of them come out exactly if there is no such header, or
some chunk ends behind the last frame and inside that header.

* `Reading` — the frames of a stream, its rest, and the fault the rest begins with.
* `feed_reading` — what feeding a stream gives, for every stream and every way of cutting it.
-/

namespace HostLink

theorem Header.decode_eq_some {bytes rest : Bytes} {h : Header}
    (hd : Header.decode bytes = some (h, rest)) : bytes = h.encode ++ rest := by
  unfold Header.decode at hd
  split at hd
  · cases hd
    rw [Header.encode, Bytes.ofU32_toU32]
    rfl
  · cases hd

theorem Header.decode_eq_none {bytes : Bytes} (hd : Header.decode bytes = none) :
    bytes.length < Header.size := by
  match bytes with
  | _ :: _ :: _ :: _ :: _ :: _ => cases hd
  | [] | [_] | [_, _] | [_, _, _] | [_, _, _, _] => simp [Header.size]

namespace Frame

/-- How a stream can go on where no frame within the limit follows. -/
inductive Ending (max : UInt32) : Bytes → Option Fault → Prop where
  /-- It ends before a header does. -/
  | header {rest : Bytes} (short : rest.length < Header.size) : Ending max rest none
  /-- It ends before the payload does that a header announces. -/
  | payload {h : Header} {rest : Bytes} (within : h.length ≤ max)
      (short : rest.length < h.length.toNat) : Ending max (h.encode ++ rest) none
  /-- A header announces more than the limit. -/
  | oversized {h : Header} {rest : Bytes} (above : max < h.length) :
      Ending max (h.encode ++ rest) (some (.payloadTooLarge h.length.toNat max.toNat))

/-- A stream is these frames and this rest, which begins with this fault if there is one. -/
structure Reading (max : UInt32) (stream : Bytes) (frames : List Frame) (rest : Bytes)
    (stop : Option Fault) : Prop where
  eq : stream = frames.flatMap Frame.encode ++ rest
  fit : ∀ f ∈ frames, f.Fits max
  ending : Ending max rest stop

theorem encode_of_header {h : Header} {payload : Bytes} (size : payload.length = h.length.toNat) :
    Frame.encode ⟨h.opcode, payload⟩ = h.encode ++ payload := by
  rw [encode, header, size, UInt32.ofNat_toNat]

theorem exists_reading (max : UInt32) (stream : Bytes) :
    ∃ frames rest stop, Reading max stream frames rest stop := by
  induction hn : stream.length using Nat.strongRecOn generalizing stream with
  | ind n ih =>
    cases hd : Header.decode stream with
    | none => exact ⟨[], stream, none, rfl, by simp, .header (Header.decode_eq_none hd)⟩
    | some decoded =>
      obtain ⟨h, behind⟩ := decoded
      obtain rfl := Header.decode_eq_some hd
      by_cases above : max < h.length
      · exact ⟨[], _, _, rfl, by simp, .oversized above⟩
      have within : h.length ≤ max := UInt32.not_lt.mp above
      cases hs : Bytes.splitExactly h.length.toNat behind with
      | none =>
        exact ⟨[], _, _, rfl, by simp, .payload within (Bytes.splitExactly_eq_none.mp hs)⟩
      | some parts =>
        obtain ⟨payload, left⟩ := parts
        obtain ⟨rfl, size⟩ := Bytes.splitExactly_eq_some hs
        have shorter : left.length < n := by
          simp only [← hn, List.length_append]
          have : h.encode.length = 5 := rfl
          omega
        obtain ⟨frames, rest, stop, reading⟩ := ih left.length shorter left rfl
        have fits : Frame.Fits max ⟨h.opcode, payload⟩ := by
          rw [Fits, size]
          exact UInt32.le_iff_toNat_le.mp within
        refine ⟨⟨h.opcode, payload⟩ :: frames, rest, stop, ?_, ?_, reading.ending⟩
        · rw [List.flatMap_cons, encode_of_header size, List.append_assoc, List.append_assoc,
            ← reading.eq]
        · exact List.forall_mem_cons.mpr ⟨fits, reading.fit⟩

namespace Buffer

/-! ## Draining a stream -/

theorem drain_ending {max : UInt32} {rest : Bytes} {stop : Option Fault}
    (ending : Ending max rest stop) : ∃ last, drain ⟨max, rest, .header⟩ = ([], stop, last) := by
  cases ending with
  | header short =>
    have undecoded : Header.decode rest = none := by
      cases hd : Header.decode rest with
      | none => rfl
      | some decoded =>
        have := length_of_decode hd
        unfold Header.size at short
        omega
    exact ⟨_, drain_short (pull_of_none undecoded)⟩
  | @payload h rest within short =>
    have valid : h.validate max = .ok () := if_neg (UInt32.not_lt.mpr within)
    have pulled : pull ⟨max, rest, .payload h⟩ = .short ⟨max, rest, .payload h⟩ := by
      simp only [pull, pullPayload, Bytes.splitExactly_eq_none.mpr short]
    exact ⟨_, drain_short ((pull_of_valid (Header.decode_encode h rest) valid).trans pulled)⟩
  | @oversized h rest above =>
    have invalid : h.validate max = .error _ := if_pos above
    exact ⟨_, drain_oversized (pull_of_invalid (Header.decode_encode h rest) invalid)⟩

/-- Draining finds the frames of the stream, and the fault behind them. -/
theorem drain_reading {max : UInt32} {stream rest : Bytes} {frames : List Frame}
    {stop : Option Fault} (reading : Reading max stream frames rest stop) :
    ∃ last, drain ⟨max, stream, .header⟩ = (frames, stop, last) := by
  obtain ⟨last, drained⟩ := drain_ending reading.ending
  refine ⟨last, ?_⟩
  rw [reading.eq, drain_encode reading.fit, drained, List.append_nil]

theorem reading_unique {max : UInt32} {stream rest rest' : Bytes} {frames frames' : List Frame}
    {stop stop' : Option Fault} (one : Reading max stream frames rest stop)
    (other : Reading max stream frames' rest' stop') :
    frames = frames' ∧ rest = rest' ∧ stop = stop' := by
  obtain ⟨last, drained⟩ := drain_reading one
  obtain ⟨last', drained'⟩ := drain_reading other
  rw [drained] at drained'
  cases drained'
  have same : frames.flatMap Frame.encode ++ rest = frames.flatMap Frame.encode ++ rest' := by
    rw [← one.eq, ← other.eq]
  exact ⟨rfl, List.append_cancel_left same, rfl⟩

theorem reading_of_drain {max : UInt32} {stream : Bytes} {frames : List Frame}
    {stop : Option Fault} {last : Buffer}
    (drained : drain ⟨max, stream, .header⟩ = (frames, stop, last)) :
    ∃ rest, Reading max stream frames rest stop := by
  obtain ⟨frames', rest, stop', reading⟩ := exists_reading max stream
  obtain ⟨last', drained'⟩ := drain_reading reading
  rw [drained] at drained'
  cases drained'
  exact ⟨rest, reading⟩

/-! ## Feeding a stream -/

theorem feed_append_of_clean {b mid : Buffer} {before : List Bytes} {frames : List Frame}
    (h : b.feed before = (frames, none, mid)) (after : List Bytes) :
    b.feed (before ++ after) = (frames ++ (mid.feed after).1, (mid.feed after).2) := by
  induction before generalizing b frames with
  | nil =>
    cases h
    rfl
  | cons chunk before ih =>
    rcases hd : (b.append chunk).drain with ⟨first, stop, b'⟩
    cases stop with
    | some e =>
      rw [feed_cons_of_stopped hd] at h
      cases h
    | none =>
      rw [feed_cons_of_clean hd] at h
      obtain ⟨rfl, later⟩ := Prod.mk.inj h
      rw [List.cons_append, feed_cons_of_clean hd, ih (Prod.ext rfl later), List.append_assoc]

/-- Where an oversized header stops the drain, the chunks before the one that completes it give what
their bytes give, and the frames of that chunk are lost. -/
theorem feed_of_stopped {b last : Buffer} {chunks : List Bytes} {frames : List Frame} {e : Fault}
    (drained : b.drain = ([], none, b))
    (h : (b.append chunks.flatten).drain = (frames, some e, last)) :
    ∃ before chunk after mid stuck, chunks = before ++ chunk :: after ∧
      (b.feed chunks).2.1 = some e ∧
      (b.append before.flatten).drain = ((b.feed chunks).1, none, mid) ∧
      (b.append (before.flatten ++ chunk)).drain = (frames, some e, stuck) := by
  induction chunks generalizing b frames with
  | nil =>
    rw [List.flatten_nil, append_nil, drained] at h
    cases h
  | cons chunk chunks ih =>
    rw [List.flatten_cons, ← append_append] at h
    rcases hd : (b.append chunk).drain with ⟨first, stop, b'⟩
    cases stop with
    | some e' =>
      -- this push fails, so its own frames are lost
      rw [drain_append_of_stopped hd] at h
      cases h
      refine ⟨[], chunk, chunks, b, b', rfl, ?_, ?_, hd⟩
      · rw [feed_cons_of_stopped hd]
      · rw [feed_cons_of_stopped hd, List.flatten_nil, append_nil, drained]
    | none =>
      rw [drain_append_of_clean hd] at h
      obtain ⟨rfl, rest⟩ := Prod.mk.inj h
      obtain ⟨before, bad, after, mid, stuck, rfl, stopped, delivered, ends⟩ :=
        ih (drain_drained hd) (Prod.ext rfl rest)
      refine ⟨chunk :: before, bad, after, mid, stuck, rfl, ?_, ?_, ?_⟩
      · rw [feed_cons_of_clean hd, stopped]
      · rw [feed_cons_of_clean hd, List.flatten_cons, ← append_append,
          drain_append_of_clean hd, delivered]
      · rw [List.flatten_cons, List.append_assoc, ← append_append, drain_append_of_clean hd, ends]

/-- Some chunk ends behind the first `n` bytes of the stream and less than a header later. -/
def CutBehind (n : Nat) (chunks : List Bytes) : Prop :=
  ∃ before after, chunks = before ++ after ∧ n ≤ before.flatten.length ∧
    before.flatten.length < n + Header.size

theorem feed_of_reading {max : UInt32} {rest : Bytes} {frames : List Frame} {chunks : List Bytes}
    (reading : Reading max chunks.flatten frames rest none) :
    ∃ last, (empty max).feed chunks = (frames, none, last) := by
  obtain ⟨last, drained⟩ := drain_reading reading
  exact ⟨last, feed_of_clean (drain_empty max) drained⟩

/-- Bytes with an oversized header in them go at least as far as that header. -/
theorem length_of_oversized {max : UInt32} {stream rest : Bytes} {frames : List Frame} {e : Fault}
    (reading : Reading max stream frames rest (some e)) :
    (frames.flatMap Frame.encode).length + Header.size ≤ stream.length := by
  have size : Header.size ≤ rest.length := by
    cases reading.ending with
    | @oversized h behind above =>
      rw [List.length_append]
      exact Nat.le_add_right _ _
  rw [reading.eq, List.length_append]
  omega

/-- Bytes that hold the frames before an oversized header, and nothing that is wrong, end inside
that header. -/
theorem reading_short {max : UInt32} {start more rest rest' : Bytes} {frames : List Frame}
    {e : Fault} (whole : Reading max (start ++ more) frames rest (some e))
    (part : Reading max start frames rest' none) :
    start.length < (frames.flatMap Frame.encode).length + Header.size := by
  have same : frames.flatMap Frame.encode ++ (rest' ++ more) =
      frames.flatMap Frame.encode ++ rest := by
    rw [← whole.eq, ← List.append_assoc, ← part.eq]
  have ending := List.append_cancel_left same ▸ whole.ending
  cases part.ending with
  | header short =>
    rw [part.eq, List.length_append]
    omega
  | @payload h rest' within short =>
    -- then the first header behind the frames would be within the limit and oversized
    generalize hb : h.encode ++ rest' ++ more = bytes at ending
    cases ending with
    | @oversized h' behind above =>
      have decoded := Header.decode_encode h' behind
      rw [← hb, List.append_assoc, Header.decode_encode] at decoded
      cases decoded
      exact absurd above (UInt32.not_lt.mpr within)

/-- Where a chunk ends behind the last frame and inside the oversized header, the frames are out
before the push that fails. -/
theorem feed_of_cutBehind {max : UInt32} {rest : Bytes} {frames : List Frame}
    {chunks : List Bytes} {stop : Option Fault}
    (reading : Reading max chunks.flatten frames rest stop)
    (cut : CutBehind (frames.flatMap Frame.encode).length chunks) :
    frames <+: ((empty max).feed chunks).1 := by
  obtain ⟨before, after, rfl, behind, inside⟩ := cut
  have whole := reading.eq
  rw [List.flatten_append] at whole
  obtain ⟨left, hleft⟩ : ∃ left, before.flatten = frames.flatMap Frame.encode ++ left := by
    obtain ⟨left, hleft⟩ := List.prefix_of_prefix_length_le
      (List.prefix_append (frames.flatMap Frame.encode) rest) (whole ▸ List.prefix_append _ _)
      behind
    exact ⟨left, hleft.symm⟩
  have short : left.length < Header.size := by
    rw [hleft, List.length_append] at inside
    omega
  obtain ⟨mid, fed⟩ := feed_of_reading ⟨hleft, reading.fit, .header short⟩
  rw [feed_append_of_clean fed]
  exact List.prefix_append _ _

/-- Whatever the stream and however it is cut, feeding ends as the stream does. All its frames come
out exactly if the stream is not stopped by an oversized header or some chunk ends between the last
frame and the end of that header. What comes out otherwise are the frames of the chunks before the
one that completes the header. -/
theorem feed_reading (max : UInt32) (stream : Bytes) :
    (∃ frames rest stop, Reading max stream frames rest stop) ∧
      ∀ frames rest stop chunks, Reading max stream frames rest stop → chunks.flatten = stream →
        ((empty max).feed chunks).2.1 = stop ∧
        (((empty max).feed chunks).1 = frames ↔
          stop = none ∨ CutBehind (frames.flatMap Frame.encode).length chunks) ∧
        (stop ≠ none → ∃ before chunk after left, chunks = before ++ chunk :: after ∧
          (frames.flatMap Frame.encode).length + Header.size ≤ (before.flatten ++ chunk).length ∧
          Reading max before.flatten ((empty max).feed chunks).1 left none) := by
  refine ⟨exists_reading max stream, ?_⟩
  rintro frames rest stop chunks reading rfl
  cases stop with
  | none =>
    obtain ⟨last, fed⟩ := feed_of_reading reading
    rw [fed]
    exact ⟨rfl, iff_of_true rfl (.inl rfl), fun stopped => absurd rfl stopped⟩
  | some e =>
    obtain ⟨last, drained⟩ := drain_reading reading
    obtain ⟨before, chunk, after, mid, stuck, hc, stopped, delivered, ends⟩ :=
      feed_of_stopped (drain_empty max) drained
    have flat : chunks.flatten = before.flatten ++ (chunk :: after).flatten := by
      rw [hc, List.flatten_append]
    have front : ((empty max).feed chunks).1 <+: frames := by
      have resumed := drain_append_of_clean delivered (chunk :: after).flatten
      rw [append_append, ← flat] at resumed
      change drain ⟨max, chunks.flatten, .header⟩ = _ at resumed
      rw [drained] at resumed
      exact ⟨_, (Prod.mk.inj resumed).1.symm⟩
    obtain ⟨left, part⟩ : ∃ left, Reading max before.flatten _ left none :=
      reading_of_drain delivered
    obtain ⟨rest', whole⟩ : ∃ rest', Reading max (before.flatten ++ chunk) frames rest' (some e) :=
      reading_of_drain ends
    refine ⟨stopped, ⟨fun all => .inr ?_, fun cut => ?_⟩, fun _ => ?_⟩
    · rw [all] at part
      refine ⟨before, chunk :: after, hc, ?_, reading_short (flat ▸ reading) part⟩
      rw [part.eq, List.length_append]
      exact Nat.le_add_right _ _
    · have cut := cut.resolve_left (Option.some_ne_none e)
      exact front.eq_of_length_le (feed_of_cutBehind reading cut).length_le
    · exact ⟨before, chunk, after, left, hc, length_of_oversized whole, part⟩

/-- A ping and a header of 17 bytes where 16 are allowed, the second chunk ending inside that
header. -/
theorem feed_ping_oversized :
    Reading 16 [1, 0, 0, 0, 0, 2, 17, 0, 0, 0] [Frame.empty Opcode.ping] [2, 17, 0, 0, 0]
        (some (.payloadTooLarge 17 16)) ∧
      ((empty 16).feed [[1, 0, 0], [0, 0, 2], [17, 0, 0, 0]]).1 = [Frame.empty Opcode.ping] ∧
      ((empty 16).feed [[1, 0, 0], [0, 0, 2], [17, 0, 0, 0]]).2.1 =
        some (.payloadTooLarge 17 16) := by
  have reading : Reading 16 [1, 0, 0, 0, 0, 2, 17, 0, 0, 0] [Frame.empty Opcode.ping]
      [2, 17, 0, 0, 0] (some (.payloadTooLarge 17 16)) :=
    ⟨rfl, by decide, @Ending.oversized 16 ⟨2, 17⟩ [] (by decide)⟩
  obtain ⟨ends, all, -⟩ := (feed_reading 16 [1, 0, 0, 0, 0, 2, 17, 0, 0, 0]).2 _ _ _
    [[1, 0, 0], [0, 0, 2], [17, 0, 0, 0]] reading rfl
  have cut : CutBehind 5 [[1, 0, 0], [0, 0, 2], [17, 0, 0, 0]] :=
    ⟨[[1, 0, 0], [0, 0, 2]], [[17, 0, 0, 0]], rfl, by decide, by decide⟩
  exact ⟨reading, all.mpr (.inr cut), ends⟩

/-- The same stream in one chunk and in two: the ping is lost in the one and not in the other. -/
theorem exists_feed_ne :
    ([[1, 0, 0, 0, 0, 2, 17, 0, 0, 0]] : List Bytes).flatten =
        [[1, 0, 0, 0, 0], [2, 17, 0, 0, 0]].flatten ∧
      ((empty 16).feed [[1, 0, 0, 0, 0, 2, 17, 0, 0, 0]]).1 = [] ∧
      ((empty 16).feed [[1, 0, 0, 0, 0], [2, 17, 0, 0, 0]]).1 = [Frame.empty Opcode.ping] := by
  have stopped : drain ⟨16, [2, 17, 0, 0, 0], .header⟩ =
      ([], some (.payloadTooLarge 17 16), ⟨16, [2, 17, 0, 0, 0], .header⟩) :=
    drain_oversized rfl
  refine ⟨rfl, ?_, ?_⟩
  · have drained : ((empty 16).append [1, 0, 0, 0, 0, 2, 17, 0, 0, 0]).drain =
        ([Frame.empty Opcode.ping], some (.payloadTooLarge 17 16),
          ⟨16, [2, 17, 0, 0, 0], .header⟩) := by
      rw [@drain_frame _ ⟨16, [2, 17, 0, 0, 0], .header⟩ (Frame.empty Opcode.ping) rfl, stopped]
    rw [feed_cons_of_stopped drained]
  · have drained : ((empty 16).append [1, 0, 0, 0, 0]).drain =
        ([Frame.empty Opcode.ping], none, empty 16) := by
      rw [@drain_frame _ (empty 16) (Frame.empty Opcode.ping) rfl, drain_empty]
    rw [feed_cons_of_clean drained,
      @feed_cons_of_stopped (empty 16) _ [2, 17, 0, 0, 0] _ _ stopped]
    rfl

end Buffer

end Frame

end HostLink
