/-!
# HostLink.Bytes

Byte strings and the little-endian words inside them.

* `Bytes.ofU16`, `Bytes.ofU32` — the bytes of a word, least significant first.
* `Bytes.toU16`, `Bytes.toU32` — the word that such bytes stand for.
* `Bytes.splitExactly` — the first `n` bytes and the rest, when there are that many.
* `Bytes.splitNul` — the bytes up to the first NUL and those behind it.

A word is read back from its own bytes: `Bytes.toU16_ofU16`, `Bytes.toU32_ofU32`.
-/

namespace HostLink

/-- A byte string, first byte first. -/
abbrev Bytes := List UInt8

namespace Bytes

/-- The two bytes of a word, least significant first. -/
def ofU16 (w : UInt16) : Bytes :=
  [UInt8.ofNat w.toNat, UInt8.ofNat (w.toNat / 256)]

/-- The four bytes of a word, least significant first. -/
def ofU32 (w : UInt32) : Bytes :=
  [UInt8.ofNat w.toNat, UInt8.ofNat (w.toNat / 256),
    UInt8.ofNat (w.toNat / 65536), UInt8.ofNat (w.toNat / 16777216)]

/-- The word whose low byte is `a` and whose high byte is `b`. -/
def toU16 (a b : UInt8) : UInt16 :=
  UInt16.ofNat (a.toNat + 256 * b.toNat)

/-- The word whose bytes are `a`, `b`, `c`, `d`, least significant first. -/
def toU32 (a b c d : UInt8) : UInt32 :=
  UInt32.ofNat (a.toNat + 256 * b.toNat + 65536 * c.toNat + 16777216 * d.toNat)

/-- The first `n` bytes and the rest, or nothing when there are fewer. -/
def splitExactly : Nat → Bytes → Option (Bytes × Bytes)
  | 0, bytes => some ([], bytes)
  | _ + 1, [] => none
  | n + 1, b :: bytes =>
    match splitExactly n bytes with
    | none => none
    | some (front, rest) => some (b :: front, rest)

/-- The bytes before the first NUL and those after it; without a NUL, all bytes and none. -/
def splitNul : Bytes → Bytes × Bytes
  | [] => ([], [])
  | b :: bytes =>
    if b = 0 then ([], bytes)
    else match splitNul bytes with
      | (front, rest) => (b :: front, rest)

@[simp] theorem length_ofU16 (w : UInt16) : (ofU16 w).length = 2 := rfl

@[simp] theorem length_ofU32 (w : UInt32) : (ofU32 w).length = 4 := rfl

/-- A two-byte word is the one its bytes stand for. -/
theorem toU16_ofU16 (w : UInt16) :
    toU16 (UInt8.ofNat w.toNat) (UInt8.ofNat (w.toNat / 256)) = w := by
  apply UInt16.toNat_inj.1
  have := w.toNat_lt
  simp only [toU16, UInt16.toNat_ofNat', UInt8.toNat_ofNat']
  omega

/-- A four-byte word is the one its bytes stand for. -/
theorem toU32_ofU32 (w : UInt32) :
    toU32 (UInt8.ofNat w.toNat) (UInt8.ofNat (w.toNat / 256))
      (UInt8.ofNat (w.toNat / 65536)) (UInt8.ofNat (w.toNat / 16777216)) = w := by
  apply UInt32.toNat_inj.1
  have := w.toNat_lt
  simp only [toU32, UInt32.toNat_ofNat', UInt8.toNat_ofNat']
  omega

/-- Two bytes are those of the word they stand for. -/
theorem ofU16_toU16 (a b : UInt8) : ofU16 (toU16 a b) = [a, b] := by
  have := a.toNat_lt
  have := b.toNat_lt
  simp only [ofU16, toU16, List.cons.injEq, and_true, ← UInt8.toNat_inj, UInt16.toNat_ofNat',
    UInt8.toNat_ofNat']
  omega

/-- Four bytes are those of the word they stand for. -/
theorem ofU32_toU32 (a b c d : UInt8) : ofU32 (toU32 a b c d) = [a, b, c, d] := by
  have := a.toNat_lt
  have := b.toNat_lt
  have := c.toNat_lt
  have := d.toNat_lt
  simp only [ofU32, toU32, List.cons.injEq, and_true, ← UInt8.toNat_inj, UInt32.toNat_ofNat',
    UInt8.toNat_ofNat']
  omega

/-- A successful split loses nothing and its front has the length asked for. -/
theorem splitExactly_eq_some {n : Nat} {bytes front rest : Bytes}
    (h : splitExactly n bytes = some (front, rest)) :
    bytes = front ++ rest ∧ front.length = n := by
  induction n generalizing bytes front with
  | zero =>
    cases h
    exact ⟨rfl, rfl⟩
  | succ n ih =>
    cases bytes with
    | nil => simp [splitExactly] at h
    | cons b bytes =>
      simp only [splitExactly] at h
      split at h
      · cases h
      · rename_i front' rest' heq
        cases h
        obtain ⟨rfl, rfl⟩ := ih heq
        exact ⟨rfl, rfl⟩

/-- A split fails only for want of bytes. -/
theorem splitExactly_eq_none {n : Nat} {bytes : Bytes} :
    splitExactly n bytes = none ↔ bytes.length < n := by
  induction n generalizing bytes with
  | zero => simp [splitExactly]
  | succ n ih =>
    cases bytes with
    | nil => simp [splitExactly]
    | cons b bytes =>
      have step := @ih bytes
      simp only [splitExactly, List.length_cons]
      split
      · rename_i heq
        have := step.1 heq
        exact ⟨fun _ => by omega, fun _ => rfl⟩
      · rename_i heq
        rw [heq] at step
        refine ⟨fun h => (Option.some_ne_none _ h).elim, fun h => ?_⟩
        exact (Option.some_ne_none _ (step.2 (by omega))).elim

/-- Splitting what was joined gives the parts back. -/
theorem splitExactly_append (front rest : Bytes) :
    splitExactly front.length (front ++ rest) = some (front, rest) := by
  induction front with
  | nil => rfl
  | cons b front ih => simp [splitExactly, ih]

/-- More bytes behind those that could be split do not change the front. -/
theorem splitExactly_more {n : Nat} {bytes front rest : Bytes}
    (h : splitExactly n bytes = some (front, rest)) (more : Bytes) :
    splitExactly n (bytes ++ more) = some (front, rest ++ more) := by
  obtain ⟨rfl, rfl⟩ := splitExactly_eq_some h
  rw [List.append_assoc]
  exact splitExactly_append front (rest ++ more)

/-- Bytes without a NUL are the front when one follows. -/
theorem splitNul_append {front : Bytes} (h : 0 ∉ front) (rest : Bytes) :
    splitNul (front ++ 0 :: rest) = (front, rest) := by
  induction front with
  | nil => rfl
  | cons b front ih =>
    have first : b ≠ 0 := fun zero => h (by simp [zero])
    have others : 0 ∉ front := fun mem => h (List.mem_cons_of_mem _ mem)
    simp [splitNul, first, ih others]

/-- Bytes without a NUL are the front when nothing follows. -/
theorem splitNul_of_notMem {front : Bytes} (h : 0 ∉ front) : splitNul front = (front, []) := by
  induction front with
  | nil => rfl
  | cons b front ih =>
    have first : b ≠ 0 := fun zero => h (by simp [zero])
    have others : 0 ∉ front := fun mem => h (List.mem_cons_of_mem _ mem)
    simp [splitNul, first, ih others]

/-- The front has no NUL; one follows it, or nothing does. -/
theorem splitNul_eq {bytes front rest : Bytes} (h : splitNul bytes = (front, rest)) :
    0 ∉ front ∧ (bytes = front ++ 0 :: rest ∨ bytes = front ∧ rest = []) := by
  induction bytes generalizing front with
  | nil =>
    cases h
    exact ⟨List.not_mem_nil, .inr ⟨rfl, rfl⟩⟩
  | cons b bytes ih =>
    by_cases zero : b = 0
    · rw [splitNul, if_pos zero] at h
      cases h
      exact ⟨List.not_mem_nil, .inl (by rw [zero]; rfl)⟩
    · cases split : splitNul bytes with
      | mk front' rest' =>
        rw [splitNul, if_neg zero, split] at h
        cases h
        obtain ⟨free, laid⟩ := ih split
        refine ⟨by simpa [Ne.symm zero] using free, ?_⟩
        rcases laid with rfl | ⟨rfl, rfl⟩
        · exact .inl rfl
        · exact .inr ⟨rfl, rfl⟩

end Bytes

end HostLink
