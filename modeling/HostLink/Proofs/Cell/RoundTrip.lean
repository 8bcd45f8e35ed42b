import HostLink.Cell.Reader
import HostLink.Cell.Writer
import HostLink.Proofs.Text.Utf8

/-!
# HostLink.Proofs.Cell.RoundTrip

A field that a writer takes can be read back, whatever comes behind it. A read that succeeds has
taken the bytes of the field off the front and nothing else (`Read.word_eq_ok`, `Read.text_eq_ok`);
only a text at the very end of the bytes may lack its NUL. Writing fields in order leaves their
bytes in order, and only fields without a fault are taken (`Writer.putAll_eq_ok`).
-/

namespace HostLink.Cell

namespace Read

theorem u16_encode (v : UInt16) (rest : Bytes) :
    u16 ((Field.u16 v).encode ++ rest) = .ok (v, rest) := by
  change Except.ok (Bytes.toU16 _ _, rest) = _
  rw [Bytes.toU16_ofU16]

theorem word_ofU32 (shape : Shape) (w : UInt32) (rest : Bytes) :
    word shape (Bytes.ofU32 w ++ rest) = .ok (w, rest) := by
  change Except.ok (Bytes.toU32 _ _ _ _, rest) = _
  rw [Bytes.toU32_ofU32]

theorem u32_encode (v : UInt32) (rest : Bytes) :
    u32 ((Field.u32 v).encode ++ rest) = .ok (v, rest) :=
  word_ofU32 .u32 v rest

theorem cell_encode (v : Int32) (rest : Bytes) :
    cell ((Field.cell v).encode ++ rest) = .ok (v, rest) := by
  have word : word .cell ((Field.cell v).encode ++ rest) = .ok (v.toUInt32, rest) :=
    word_ofU32 .cell v.toUInt32 rest
  rw [cell, word]
  simp

/-- The bytes of a text end at its own NUL, since there is none inside. -/
theorem text_encode {t : String} (clean : (Field.text t).fault? = none) (rest : Bytes) :
    text ((Field.text t).encode ++ rest) = .ok (t, rest) := by
  have free : '\x00' ∉ t.toList := by simpa [Field.fault?] using clean
  have split : Bytes.splitNul ((Field.text t).encode ++ rest) = (Utf8.encode t, rest) := by
    rw [Field.encode, List.append_assoc]
    exact Bytes.splitNul_append (Utf8.zero_notMem_encode free) rest
  rw [text, split]
  dsimp only
  rw [Utf8.decode_encode]

/-- At the end of the bytes a text is read without its NUL. -/
theorem text_open {t : String} (free : '\x00' ∉ t.toList) : text (Utf8.encode t) = .ok (t, []) := by
  rw [text, Bytes.splitNul_of_notMem (Utf8.zero_notMem_encode free)]
  dsimp only
  rw [Utf8.decode_encode]

/-! ## What was read -/

theorem u16_eq_ok {bytes rest : Bytes} {v : UInt16} :
    u16 bytes = .ok (v, rest) ↔ bytes = Bytes.ofU16 v ++ rest := by
  constructor
  · intro h
    match bytes, h with
    | a :: b :: more, h =>
      cases h
      rw [Bytes.ofU16_toU16]
      rfl
  · rintro rfl
    exact u16_encode v rest

theorem word_eq_ok {shape : Shape} {bytes rest : Bytes} {w : UInt32} :
    word shape bytes = .ok (w, rest) ↔ bytes = Bytes.ofU32 w ++ rest := by
  constructor
  · intro h
    match bytes, h with
    | a :: b :: c :: d :: more, h =>
      cases h
      rw [Bytes.ofU32_toU32]
      rfl
  · rintro rfl
    exact word_ofU32 shape w rest

theorem cell_eq_ok {bytes rest : Bytes} {v : Int32} :
    cell bytes = .ok (v, rest) ↔ bytes = Bytes.ofU32 v.toUInt32 ++ rest := by
  constructor
  · intro h
    unfold cell at h
    split at h
    · rename_i w rest' read
      cases h
      exact word_eq_ok.mp read
    · cases h
  · rintro rfl
    exact cell_encode v rest

/-- A text is read up to its NUL, or to the end of the bytes if it has none. -/
theorem text_eq_ok {bytes rest : Bytes} {t : String} :
    text bytes = .ok (t, rest) ↔ '\x00' ∉ t.toList ∧
      (bytes = Utf8.encode t ++ 0 :: rest ∨ bytes = Utf8.encode t ∧ rest = []) := by
  constructor
  · intro h
    unfold text at h
    split at h
    · rename_i front rest' split
      obtain ⟨free, laid⟩ := Bytes.splitNul_eq split
      split at h
      · rename_i t' decoded
        cases h
        rw [← Utf8.encode_of_decode decoded] at free laid
        exact ⟨fun mem => free (Utf8.zero_mem_encode.mpr mem), laid⟩
      · cases h
  · rintro ⟨free, rfl | ⟨rfl, rfl⟩⟩
    · have clean : (Field.text t).fault? = none := by simpa [Field.fault?] using free
      have read := text_encode clean rest
      rwa [Field.encode, List.append_assoc] at read
    · exact text_open free

end Read

namespace Writer

theorem put_clean {f : Field} {w w' : Writer} (h : w.put f = .ok w') : f.fault? = none := by
  unfold put at h
  split at h
  · cases h
  · assumption

/-- When every offer is taken, all were fields without a fault, and their bytes are appended. -/
theorem putAll_eq_ok {offers : List (Except Fault Field)} {w w' : Writer}
    (h : w.putAll offers = (.ok (), w')) : ∃ fields : List Field, offers = fields.map .ok ∧
      (∀ f ∈ fields, f.fault? = none) ∧ w'.bytes = w.bytes ++ fields.flatMap Field.encode := by
  induction offers generalizing w with
  | nil =>
    cases h
    exact ⟨[], rfl, by simp, by simp⟩
  | cons offer offers ih =>
    cases offer with
    | error e => cases h
    | ok f =>
      rw [putAll] at h
      split at h
      · rename_i v taken
        obtain ⟨fields, rfl, clean, bytes⟩ := ih h
        have appended : v.bytes = w.bytes ++ f.encode := by rw [put_eq_ok taken]
        refine ⟨f :: fields, rfl, ?_, by simp [bytes, appended]⟩
        simpa using ⟨put_clean taken, clean⟩
      · cases h

end Writer

end HostLink.Cell
