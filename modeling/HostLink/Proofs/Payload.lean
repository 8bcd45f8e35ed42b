import HostLink.Announcement
import HostLink.Answer
import HostLink.Callback.Call

/-!
# HostLink.Proofs.Payload

The payloads that a host writes, and their sizes. A writer only appends, and not past its limit
(`Writer.Grown`), so a call fits the writer it was written with. Announcements and answers to
lookups have writers of their own, which are always large enough; their bytes are known
(`Announcement.encode_eq`, `LookupAnswer.encode_eq`).
-/

namespace HostLink

namespace Cell.Writer

/-- A writer with no more bytes than its limit. -/
def Within (w : Writer) : Prop := w.bytes.length ≤ w.limit

/-- Bytes may have been appended, as far as the limit goes; nothing else has changed. -/
def Grown (w w' : Writer) : Prop :=
  ∃ more, w' = { w with bytes := w.bytes ++ more } ∧
    (more = [] ∨ w.bytes.length + more.length ≤ w.limit)

namespace Grown

theorem refl (w : Writer) : Grown w w := ⟨[], by simp, .inl rfl⟩

theorem trans {w v u : Writer} (h : Grown w v) (h' : Grown v u) : Grown w u := by
  obtain ⟨more, rfl, room⟩ := h
  obtain ⟨more', rfl, room'⟩ := h'
  refine ⟨more ++ more', by simp, ?_⟩
  rcases room' with rfl | room'
  · rwa [List.append_nil]
  · simp only [List.length_append] at room' ⊢
    exact .inr (by omega)

theorem limit {w w' : Writer} (h : Grown w w') : w'.limit = w.limit := by
  obtain ⟨more, rfl, -⟩ := h
  rfl

theorem isPrefix {w w' : Writer} (h : Grown w w') : w.bytes <+: w'.bytes := by
  obtain ⟨more, rfl, -⟩ := h
  exact List.prefix_append _ _

theorem length_le {w w' : Writer} (h : Grown w w') :
    w'.bytes.length ≤ max w.limit w.bytes.length := by
  obtain ⟨more, rfl, rfl | room⟩ := h
  · simp only [List.append_nil]
    omega
  · simp only [List.length_append]
    omega

theorem within {w w' : Writer} (h : Grown w w') (inside : w.Within) :
    w'.Within ∧ w'.limit = w.limit := by
  have long := h.length_le
  unfold Within at inside ⊢
  rw [h.limit]
  exact ⟨by omega, rfl⟩

end Grown

theorem put_within {f : Field} {w w' : Writer} (h : w.put f = .ok w') :
    w'.Within ∧ w'.limit = w.limit := by
  unfold put at h
  split at h
  · cases h
  · split at h
    · cases h
    · rename_i room
      cases h
      refine ⟨?_, rfl⟩
      simp only [Within, List.length_append]
      omega

theorem put_grown {f : Field} {w w' : Writer} (h : w.put f = .ok w') : Grown w w' := by
  obtain ⟨within, -⟩ := put_within h
  obtain rfl := put_eq_ok h
  exact ⟨f.encode, rfl, .inr (by rwa [Within, List.length_append] at within)⟩

theorem putAll_grown (offers : List (Except Fault Field)) (w : Writer) :
    Grown w (w.putAll offers).2 := by
  induction offers generalizing w with
  | nil => exact .refl w
  | cons offer offers ih =>
    cases offer with
    | error e => exact .refl w
    | ok f =>
      rw [putAll]
      split
      · rename_i v taken
        exact (put_grown taken).trans (ih v)
      · exact .refl w

/-- Fields without a fault are all taken when there is room for them. -/
theorem putAll_room (fields : List Field) (w : Writer) (clean : ∀ f ∈ fields, f.fault? = none)
    (room : w.bytes.length + (fields.flatMap Field.encode).length ≤ w.limit) :
    w.putAll (fields.map .ok) =
      (.ok (), { w with bytes := w.bytes ++ fields.flatMap Field.encode }) := by
  induction fields generalizing w with
  | nil => simp [putAll]
  | cons f fields ih =>
    obtain ⟨first, others⟩ := List.forall_mem_cons.mp clean
    simp only [List.flatMap_cons, List.length_append] at room
    have taken : w.put f = .ok { w with bytes := w.bytes ++ f.encode } := by
      have enough : ¬ w.limit < w.bytes.length + f.encode.length := by omega
      simp [put, first, enough]
    rw [List.map_cons, putAll, taken]
    dsimp only
    rw [ih _ others (by simp only [List.length_append]; omega)]
    simp

end Cell.Writer

open Cell (Writer)

theorem Callback.Table.writeCall_grown (t : Callback.Table) (caller : Option UInt16) (name : String)
    (params : List Callback.Param) (w : Writer) :
    Writer.Grown w (t.writeCall caller name params w).2 := by
  unfold writeCall
  split
  · exact .refl w
  · rename_i signature _
    split
    · exact .refl w
    · split
      · exact .refl w
      · have grown := Writer.putAll_grown (callFields caller name signature params) w
        split <;> rename_i written <;> rwa [written] at grown

theorem LookupAnswer.encode_eq (r : LookupAnswer) : r.encode =
    .ok (Bytes.ofU16 r.caller ++ Bytes.ofU32 (r.handle.getD noHandle).toUInt32) := rfl

theorem Utf8.lastBoundary_le (bytes : Bytes) (n : Nat) : lastBoundary bytes n ≤ n := by
  induction n with
  | zero => exact Nat.le_refl 0
  | succ n ih =>
    unfold lastBoundary
    split
    · exact Nat.le_refl _
    · omega

namespace Announcement

theorem length_sentDir (a : Announcement) : a.sentDir.length ≤ maxPath := by
  have cut := Utf8.lastBoundary_le (Utf8.encode a.workingDir)
    (min (Utf8.encode a.workingDir).length maxPath)
  simp only [sentDir, List.length_take]
  omega

theorem encode_eq (a : Announcement) : a.encode =
    .ok (Bytes.ofU32 a.protocolVersion ++ (Bytes.ofU32 a.buildVersion ++ a.sentDir)) := by
  have short := a.length_sentDir
  have taken := Writer.putAll_room
    [.u32 a.protocolVersion, .u32 a.buildVersion, .raw a.sentDir] (.empty (8 + maxPath))
    (by simp [Cell.Field.fault?]) (by simp [Writer.empty, Cell.Field.encode]; omega)
  unfold encode
  rw [show [.ok (.u32 a.protocolVersion), .ok (.u32 a.buildVersion), .ok (.raw a.sentDir)] =
    [Cell.Field.u32 a.protocolVersion, .u32 a.buildVersion, .raw a.sentDir].map Except.ok from rfl,
    taken]
  simp [Writer.empty, Cell.Field.encode]

end Announcement

end HostLink
