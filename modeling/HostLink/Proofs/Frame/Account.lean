import HostLink.Proofs.Frame.Stream

/-!
# HostLink.Proofs.Frame.Account

Where the bytes are that a buffer was given. As long as no push has failed, all that was pushed is
in the frames that were returned, in the header that was taken off last, or still in the buffer, in
this order and without a gap; and what is still there is less than what is waited for. A push that
meets an oversized header leaves it at the front, so that every later push fails in the same way
until the buffer is cleared, and then it is as it was in the beginning.

* `Buffer.kept`          — the bytes that are in no returned frame.
* `Account`              — a buffer with what was pushed since it was last cleared.
* `Account.bytes_in_account` — where the bytes are, after any pushes and clears.
-/

namespace HostLink.Frame

/-- The bytes of the header that was taken off. -/
def Stage.bytes : Stage → Bytes
  | .header => []
  | .payload h => h.encode

namespace Buffer

/-- The bytes that are in no returned frame: a header that was taken off, and those behind it. -/
def kept (b : Buffer) : Bytes := b.stage.bytes ++ b.bytes

/-- A header that was taken off is within the limit. -/
def Admissible (b : Buffer) : Prop := ∀ h, b.stage = .payload h → h.length ≤ b.max

/-- Less is there than what is waited for. -/
structure Short (b : Buffer) : Prop where
  header : b.stage = .header → b.length ≤ 4
  payload : ∀ h, b.stage = .payload h → b.length < h.length.toNat

/-- An oversized header is at the front. -/
def Stuck (e : Fault) (b : Buffer) : Prop := b.pull = .oversized e

theorem Stuck.stage {e : Fault} {b : Buffer} (stuck : b.Stuck e) : b.stage = .header := by
  obtain ⟨max, bytes, stage⟩ := b
  cases stage with
  | header => rfl
  | payload h => exact absurd stuck (pull_payload_ne_oversized max bytes h e)

theorem pull_of_short {b : Buffer} (short : b.Short) : b.pull = .short b := by
  obtain ⟨max, bytes, stage⟩ := b
  cases stage with
  | header =>
    have few : bytes.length ≤ 4 := short.header rfl
    refine pull_of_none ?_
    cases decoded : Header.decode bytes with
    | none => rfl
    | some r =>
      have := length_of_decode decoded
      omega
  | payload h =>
    have few : bytes.length < h.length.toNat := short.payload h rfl
    simp only [pull, pullPayload, Bytes.splitExactly_eq_none.mpr few]

/-! ## One pull -/

/-- What a pull comes to when these bytes are in no frame yet: it takes the bytes of a frame off the
front, or finds less than what is waited for, or an oversized header. -/
inductive Pulls (laid : Bytes) : Pull → Prop where
  | short {b : Buffer} (admissible : b.Admissible) (short : b.Short) (bytes : laid = b.kept) :
      Pulls laid (.short b)
  | frame {f : Frame} {b : Buffer} (stage : b.stage = .header)
      (bytes : laid = f.encode ++ b.kept) : Pulls laid (.frame f b)
  | oversized (e : Fault) : Pulls laid (.oversized e)

/-- Taking off a payload that is announced within the limit. -/
theorem pulls_payload {max : UInt32} {h : Header} (within : h.length ≤ max) (bytes : Bytes) :
    Pulls (h.encode ++ bytes) (pullPayload max h bytes) := by
  unfold pullPayload
  cases split : Bytes.splitExactly h.length.toNat bytes with
  | none =>
    refine .short ?_ ⟨?_, ?_⟩ rfl
    · intro h' same
      cases same
      exact within
    · intro same
      cases same
    · intro h' same
      cases same
      exact Bytes.splitExactly_eq_none.mp split
  | some parts =>
    obtain ⟨payload, rest⟩ := parts
    obtain ⟨rfl, size⟩ := Bytes.splitExactly_eq_some split
    refine .frame rfl ?_
    rw [encode_of_header size, List.append_assoc]
    rfl

theorem pulls_pull {b : Buffer} (admissible : b.Admissible) : Pulls b.kept b.pull := by
  obtain ⟨max, bytes, stage⟩ := b
  cases stage with
  | payload h => exact pulls_payload (admissible h rfl) bytes
  | header =>
    cases decoded : Header.decode bytes with
    | none =>
      have few := Header.decode_eq_none decoded
      rw [pull_of_none decoded]
      exact .short nofun ⟨fun _ => Nat.le_of_lt_succ few, nofun⟩ rfl
    | some r =>
      obtain ⟨h, rest⟩ := r
      have laid : kept ⟨max, bytes, .header⟩ = h.encode ++ rest := Header.decode_eq_some decoded
      by_cases above : max < h.length
      · have invalid : h.validate max = .error _ := if_pos above
        rw [pull_of_invalid decoded invalid]
        exact .oversized _
      · have valid : h.validate max = .ok () := if_neg above
        rw [pull_of_valid decoded valid, laid]
        exact pulls_payload (UInt32.not_lt.mp above) rest

/-! ## One push -/

/-- A drain that nothing stops takes the bytes of its frames off the front; one that is stopped
leaves the oversized header there. -/
theorem drain_cases {b : Buffer} (admissible : b.Admissible) :
    (∃ frames b', b.drain = (frames, none, b') ∧ b'.Admissible ∧ b'.Short ∧
      b.kept = frames.flatMap Frame.encode ++ b'.kept) ∨
    ∃ frames e b', b.drain = (frames, some e, b') ∧ b'.Stuck e := by
  induction b using drain.induct with
  | case1 b b' pulled =>
    have found := pulls_pull admissible
    rw [pulled] at found
    cases found with
    | short fine few bytes => exact .inl ⟨[], b', drain_short pulled, fine, few, bytes⟩
  | case2 b e pulled => exact .inr ⟨[], e, b, drain_oversized pulled, pulled⟩
  | case3 b f b₁ pulled _ _ _ _ ih =>
    have found := pulls_pull admissible
    rw [pulled] at found
    cases found with
    | frame stage laid =>
      have ready : b₁.Admissible := by simp [Admissible, stage]
      rcases ih ready with ⟨frames, b', drained, fine, short, later⟩ |
        ⟨frames, e, b', drained, stuck⟩
      · refine .inl ⟨f :: frames, b', by rw [drain_frame pulled, drained], fine, short, ?_⟩
        rw [laid, later, List.flatMap_cons, List.append_assoc]
      · exact .inr ⟨f :: frames, e, b', by rw [drain_frame pulled, drained], stuck⟩

theorem max_push (chunk : Bytes) (b : Buffer) : (b.push chunk).2.max = b.max := by
  have kept := (b.append chunk).max_drain
  rw [push_eq]
  split <;> rename_i drained <;> rwa [drained] at kept

/-- A push gives all the frames that are there, or it fails and the buffer is stuck. -/
theorem push_cases {b : Buffer} (admissible : b.Admissible) (chunk : Bytes) :
    (∃ frames b', b.push chunk = (.ok frames, b') ∧ b'.Admissible ∧ b'.Short ∧
      b.kept ++ chunk = frames.flatMap Frame.encode ++ b'.kept) ∨
    ∃ e b', b.push chunk = (.error e, b') ∧ b'.Stuck e := by
  have more : (b.append chunk).Admissible := admissible
  have laid : (b.append chunk).kept = b.kept ++ chunk := (List.append_assoc _ _ _).symm
  rcases drain_cases more with ⟨frames, b', drained, rest⟩ | ⟨frames, e, b', drained, stuck⟩
  · rw [laid] at rest
    exact .inl ⟨frames, b', by rw [push_eq, drained], rest⟩
  · exact .inr ⟨e, b', by rw [push_eq, drained], stuck⟩

/-- A buffer that is stuck fails at every push, and stays stuck. -/
theorem Stuck.push {b : Buffer} {e : Fault} (stuck : b.Stuck e) (chunk : Bytes) :
    ∃ b', b.push chunk = (.error e, b') ∧ b'.Stuck e := by
  have more : (b.append chunk).Stuck e := pull_oversized_append stuck chunk
  exact ⟨b.append chunk, by rw [push_eq, drain_oversized more], more⟩

end Buffer

/-! ## Many pushes -/

/-- What is done with a buffer. -/
inductive Use where
  | push (chunk : Bytes)
  | clear

/-- A push and what it gave. -/
structure Push where
  chunk : Bytes
  gave : Except Fault (List Frame)

/-- A buffer, and what was pushed since it was last cleared, oldest first. -/
structure Account where
  pushes : List Push
  buffer : Buffer

namespace Account

def opened (max : UInt32) : Account := ⟨[], .empty max⟩

def use (a : Account) : Use → Account
  | .push chunk => ⟨a.pushes ++ [⟨chunk, (a.buffer.push chunk).1⟩], (a.buffer.push chunk).2⟩
  | .clear => ⟨[], a.buffer.clear⟩

/-- The account of a buffer with this limit after these uses. -/
def after (max : UInt32) (uses : List Use) : Account := uses.foldl use (opened max)

/-- All bytes that were pushed. -/
def pushed (a : Account) : Bytes := a.pushes.flatMap Push.chunk

/-- All frames that were returned. -/
def returned (a : Account) : List Frame := a.pushes.flatMap fun p => p.gave.toOption.getD []

/-- No push has failed. -/
def Clean (a : Account) : Prop := ∀ p ∈ a.pushes, ∃ frames, p.gave = .ok frames

/-- How an account stands: nothing has failed and every byte is accounted for, or a push has failed,
and only in the way in which the next one will. -/
inductive Sound (max : UInt32) (a : Account) : Prop where
  | clean (limit : a.buffer.max = max) (clean : a.Clean) (admissible : a.buffer.Admissible)
      (short : a.buffer.Short)
      (bytes : a.pushed = a.returned.flatMap Frame.encode ++ a.buffer.kept)
  | stuck (limit : a.buffer.max = max) {e : Fault} (failed : ∃ p ∈ a.pushes, p.gave = .error e)
      (alike : ∀ p ∈ a.pushes, ∀ e', p.gave = .error e' → e' = e)
      (sticky : a.pushes.Pairwise fun p q => ∀ e', p.gave = .error e' → q.gave = .error e')
      (stuck : a.buffer.Stuck e)

theorem sound_opened (max : UInt32) : Sound max (opened max) :=
  .clean rfl nofun nofun ⟨fun _ => Nat.zero_le 4, nofun⟩ rfl

theorem Clean.error {a : Account} (clean : a.Clean) {p : Push} (mem : p ∈ a.pushes) {e : Fault} :
    p.gave ≠ .error e := by
  intro failed
  obtain ⟨frames, gave⟩ := clean p mem
  rw [gave] at failed
  cases failed

theorem Sound.push {max : UInt32} {a : Account} (sound : Sound max a) (chunk : Bytes) :
    Sound max (a.use (.push chunk)) := by
  have limit' : (a.use (.push chunk)).buffer.max = a.buffer.max := a.buffer.max_push chunk
  cases sound with
  | clean limit clean admissible short bytes =>
    rcases Buffer.push_cases admissible chunk with
      ⟨frames, b', pushed, admissible', short', laid⟩ | ⟨e, b', pushed, stuck⟩
    · rw [use, pushed] at limit' ⊢
      refine .clean (limit'.trans limit) ?_ admissible' short' ?_
      · intro p mem
        rcases List.mem_append.mp mem with mem | mem
        · exact clean p mem
        · rw [List.mem_singleton.mp mem]
          exact ⟨frames, rfl⟩
      · simp only [Account.pushed, Account.returned, List.flatMap_append, List.flatMap_singleton]
          at bytes ⊢
        rw [bytes, List.append_assoc, laid, ← List.append_assoc]
        rfl
    · rw [use, pushed] at limit' ⊢
      -- this push is the first that fails
      have others {p : Push} (mem : p ∈ a.pushes) {e' : Fault} : p.gave ≠ .error e' :=
        clean.error mem
      refine .stuck (limit'.trans limit) (e := e) ⟨⟨chunk, .error e⟩, by simp, rfl⟩ ?_ ?_ stuck
      · intro p mem e' failed
        rcases List.mem_append.mp mem with mem | mem
        · exact absurd failed (others mem)
        · rw [List.mem_singleton.mp mem] at failed
          cases failed
          rfl
      · refine List.pairwise_append.mpr ⟨?_, List.pairwise_singleton _ _, ?_⟩
        · exact List.pairwise_of_forall_mem_list fun p mem q _ e' failed =>
            absurd failed (others mem)
        · exact fun p mem q _ e' failed => absurd failed (others mem)
  | @stuck limit e failed alike sticky stuck =>
    obtain ⟨b', pushed, stuck'⟩ := stuck.push chunk
    rw [use, pushed] at limit' ⊢
    obtain ⟨p, mem, gave⟩ := failed
    refine .stuck (limit'.trans limit) (e := e) ⟨p, List.mem_append_left _ mem, gave⟩ ?_ ?_ stuck'
    · intro q mem e' failed
      rcases List.mem_append.mp mem with mem | mem
      · exact alike q mem e' failed
      · rw [List.mem_singleton.mp mem] at failed
        cases failed
        rfl
    · refine List.pairwise_append.mpr ⟨sticky, List.pairwise_singleton _ _, ?_⟩
      intro q mem q' last e' failed
      rw [List.mem_singleton.mp last, alike q mem e' failed]

theorem Sound.use {max : UInt32} {a : Account} (sound : Sound max a) (u : Use) :
    Sound max (a.use u) := by
  cases u with
  | push chunk => exact sound.push chunk
  | clear =>
    have limit : a.buffer.max = max := by cases sound <;> assumption
    rw [Account.use, Buffer.clear, limit]
    exact sound_opened max

theorem sound_after (max : UInt32) (uses : List Use) : Sound max (after max uses) := by
  suffices kept : ∀ a, Sound max a → Sound max (uses.foldl Account.use a) from
    kept _ (sound_opened max)
  induction uses with
  | nil => exact fun a sound => sound
  | cons u uses ih => exact fun a sound => ih _ (sound.use u)

/-- A buffer that is cleared is as it was in the beginning. -/
theorem after_clear (max : UInt32) (uses more : List Use) :
    after max (uses ++ .clear :: more) = after max more := by
  have limit : (after max uses).buffer.max = max := by
    cases sound_after max uses <;> assumption
  have cleared : (after max uses).use .clear = opened max := by
    rw [use, Buffer.clear, limit]
    rfl
  rw [after, List.foldl_append, List.foldl_cons]
  change more.foldl use ((after max uses).use .clear) = _
  rw [cleared]
  rfl

/-- After any pushes and clears: as long as no push has failed since the last clear, what was pushed
since then are the bytes of the frames that were returned, of the header that was taken off, and of
the buffer; and no frame is left there, as less is there than what is waited for. What is waited for
is always within the limit. After a push that has failed all fail with the same fault, and after a
clear all goes as with a new buffer. -/
theorem bytes_in_account (max : UInt32) (uses : List Use) :
    ((after max uses).Clean →
      (after max uses).pushed = (after max uses).returned.flatMap Frame.encode ++
        ((after max uses).buffer.stage.bytes ++ (after max uses).buffer.bytes) ∧
      (after max uses).buffer.pull = .short (after max uses).buffer ∧
      ((after max uses).buffer.stage = .header → (after max uses).buffer.length ≤ 4) ∧
      ∀ h, (after max uses).buffer.stage = .payload h →
        (after max uses).buffer.length < h.length.toNat) ∧
    (∀ h, (after max uses).buffer.stage = .payload h → h.length ≤ max) ∧
    (after max uses).pushes.Pairwise
      (fun p q => ∀ e, p.gave = .error e → q.gave = .error e) ∧
    ∀ more, after max (uses ++ .clear :: more) = after max more := by
  cases sound_after max uses with
  | clean limit clean admissible short bytes =>
    refine ⟨fun _ => ⟨bytes, Buffer.pull_of_short short, short.header, short.payload⟩, ?_, ?_,
      after_clear max uses⟩
    · exact fun h stage => limit ▸ admissible h stage
    · exact List.pairwise_of_forall_mem_list fun p mem q _ e failed =>
        absurd failed (clean.error mem)
  | @stuck limit e failed alike sticky stuck =>
    obtain ⟨p, mem, gave⟩ := failed
    refine ⟨fun clean => absurd gave (clean.error mem), ?_, sticky, after_clear max uses⟩
    intro h stage
    rw [stuck.stage] at stage
    cases stage

end Account

end HostLink.Frame
