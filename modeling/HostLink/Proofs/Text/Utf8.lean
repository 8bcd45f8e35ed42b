import HostLink.Text.Utf8

/-!
# HostLink.Proofs.Text.Utf8

What is encoded can be decoded. The machine that cuts bytes into items goes through the bytes of a
character and finds that character, whatever comes behind them (`items_encodeChar`); so a text is
read back from its bytes (`decode_encode`). Nothing else is decoded: where the machine finds nothing
but characters, it has gone through their bytes one by one (`items_front`), so that a text is
decoded from its own bytes only (`encode_of_decode`). They contain a NUL exactly if the text does
(`zero_mem_encode`).
-/

namespace HostLink.Utf8

theorem itemsFrom_cons (p : Option Pending) (b : UInt8) (bytes : Bytes) :
    itemsFrom p (b :: bytes) = (step p b).1 ++ itemsFrom (step p b).2 bytes := by
  cases p <;> rfl

/-! ## First bytes -/

theorem start_ascii {b : UInt8} (h : b.toNat < 0x80) :
    start b = ([.char (Char.ofNat b.toNat)], none) :=
  if_pos h

theorem start_two {b : UInt8} (low : 0xC2 ≤ b.toNat) (high : b.toNat < 0xE0) :
    start b = ([], some ⟨1, 0, 0x80, 0xBF, b.toNat - 0xC0⟩) := by
  unfold start
  dsimp only
  rw [if_neg (by omega), if_neg (by omega), if_pos high]

/-- The first of three bytes. The two extreme ones narrow the bounds of the second. -/
theorem start_three {b : UInt8} (low : 0xE0 ≤ b.toNat) (high : b.toNat < 0xF0) :
    start b = ([], some ⟨1, 1, if b.toNat = 0xE0 then 0xA0 else 0x80,
      if b.toNat = 0xED then 0x9F else 0xBF, b.toNat - 0xE0⟩) := by
  unfold start
  dsimp only
  rw [if_neg (by omega), if_neg (by omega), if_neg (by omega)]
  by_cases first : b.toNat = 0xE0
  · simp [first]
  · by_cases surrogate : b.toNat = 0xED
    · simp [surrogate]
    · simp [first, surrogate, high]

theorem start_four {b : UInt8} (low : 0xF0 ≤ b.toNat) (high : b.toNat < 0xF5) :
    start b = ([], some ⟨1, 2, if b.toNat = 0xF0 then 0x90 else 0x80,
      if b.toNat = 0xF4 then 0x8F else 0xBF, b.toNat - 0xF0⟩) := by
  unfold start
  dsimp only
  rw [if_neg (by omega), if_neg (by omega), if_neg (by omega), if_neg (by omega),
    if_neg (by omega), if_neg (by omega)]
  by_cases first : b.toNat = 0xF0
  · simp [first]
  · by_cases last : b.toNat = 0xF4
    · simp [last]
    · have inner : b.toNat < 0xF4 := by omega
      simp [first, last, inner]

/-! ## Later bytes -/

theorem Pending.step_more {b : UInt8} {seen owed low high bits : Nat} (hlow : low ≤ b.toNat)
    (hhigh : b.toNat ≤ high) : Pending.step ⟨seen, owed + 1, low, high, bits⟩ b =
      ([], some ⟨seen + 1, owed, 0x80, 0xBF, bits * 64 + (b.toNat - 0x80)⟩) := by
  unfold Pending.step
  dsimp only
  rw [if_pos ⟨hlow, hhigh⟩]

theorem Pending.step_last {b : UInt8} {seen low high bits : Nat} (hlow : low ≤ b.toNat)
    (hhigh : b.toNat ≤ high) : Pending.step ⟨seen, 0, low, high, bits⟩ b =
      ([.char (Char.ofNat (bits * 64 + (b.toNat - 0x80)))], none) := by
  unfold Pending.step
  dsimp only
  rw [if_pos ⟨hlow, hhigh⟩]

/-! ## Characters

A character's value is cut into groups of six bits, and a smaller group in front; the conditions on
the front group shut out overlong forms and surrogates. -/

section Characters

variable {a b c d : Nat}

theorem byte_toNat {n : Nat} (h : n < 256) : (UInt8.ofNat n).toNat = n :=
  UInt8.toNat_ofNat_of_lt' h

theorem items_two (front : 2 ≤ a) (ha : a < 32) (hb : b < 64) (rest : Bytes) :
    itemsFrom none (UInt8.ofNat (a + 192) :: UInt8.ofNat (b + 128) :: rest) =
      .char (Char.ofNat (a * 64 + b)) :: itemsFrom none rest := by
  have na : (UInt8.ofNat (a + 192)).toNat = a + 192 := byte_toNat (by omega)
  have nb : (UInt8.ofNat (b + 128)).toNat = b + 128 := byte_toNat (by omega)
  rw [itemsFrom_cons, itemsFrom_cons, step, start_two (by omega) (by omega), step,
    Pending.step_last (by omega) (by omega), na, nb]
  simp

theorem items_three (ha : a < 16) (hb : b < 64) (hc : c < 64) (front : a = 0 → 32 ≤ b)
    (surrogate : a = 13 → b < 32) (rest : Bytes) :
    itemsFrom none (UInt8.ofNat (a + 224) :: UInt8.ofNat (b + 128) :: UInt8.ofNat (c + 128) :: rest)
      = .char (Char.ofNat ((a * 64 + b) * 64 + c)) :: itemsFrom none rest := by
  have na : (UInt8.ofNat (a + 224)).toNat = a + 224 := byte_toNat (by omega)
  have nb : (UInt8.ofNat (b + 128)).toNat = b + 128 := byte_toNat (by omega)
  have nc : (UInt8.ofNat (c + 128)).toNat = c + 128 := byte_toNat (by omega)
  rw [itemsFrom_cons, itemsFrom_cons, itemsFrom_cons, step, start_three (by omega) (by omega), step,
    Pending.step_more (by split <;> omega) (by split <;> omega), step,
    Pending.step_last (by omega) (by omega), na, nb, nc]
  simp

theorem items_four (ha : a < 5) (hb : b < 64) (hc : c < 64) (hd : d < 64) (front : a = 0 → 16 ≤ b)
    (last : a = 4 → b < 16) (rest : Bytes) :
    itemsFrom none (UInt8.ofNat (a + 240) :: UInt8.ofNat (b + 128) :: UInt8.ofNat (c + 128) ::
      UInt8.ofNat (d + 128) :: rest) =
        .char (Char.ofNat (((a * 64 + b) * 64 + c) * 64 + d)) :: itemsFrom none rest := by
  have na : (UInt8.ofNat (a + 240)).toNat = a + 240 := byte_toNat (by omega)
  have nb : (UInt8.ofNat (b + 128)).toNat = b + 128 := byte_toNat (by omega)
  have nc : (UInt8.ofNat (c + 128)).toNat = c + 128 := byte_toNat (by omega)
  have nd : (UInt8.ofNat (d + 128)).toNat = d + 128 := byte_toNat (by omega)
  rw [itemsFrom_cons, itemsFrom_cons, itemsFrom_cons, itemsFrom_cons, step,
    start_four (by omega) (by omega), step,
    Pending.step_more (by split <;> omega) (by split <;> omega), step,
    Pending.step_more (by omega) (by omega), step, Pending.step_last (by omega) (by omega),
    na, nb, nc, nd]
  simp

/-- The value of a character that has one. -/
theorem val_ofNat {n : Nat} (h : n < 0xD800 ∨ 0xDFFF < n ∧ n < 0x110000) :
    (Char.ofNat n).val.toNat = n := by
  have valid : n.isValidChar := h
  rw [Char.ofNat, dif_pos valid]
  rfl

theorem encodeChar_ascii {b : UInt8} (h : b.toNat < 0x80) :
    String.utf8EncodeChar (Char.ofNat b.toNat) = [b] := by
  unfold String.utf8EncodeChar
  dsimp only
  rw [val_ofNat (by omega), if_pos (by omega), UInt8.ofNat_toNat]

theorem encodeChar_two (front : 2 ≤ a) (ha : a < 32) (hb : b < 64) :
    String.utf8EncodeChar (Char.ofNat (a * 64 + b)) =
      [UInt8.ofNat (a + 192), UInt8.ofNat (b + 128)] := by
  have high : (a * 64 + b) / 64 % 32 = a := by omega
  have low : (a * 64 + b) % 64 = b := by omega
  unfold String.utf8EncodeChar
  dsimp only
  rw [val_ofNat (by omega), if_neg (by omega), if_pos (by omega), high, low]

theorem encodeChar_three (ha : a < 16) (hb : b < 64) (hc : c < 64) (front : a = 0 → 32 ≤ b)
    (surrogate : a = 13 → b < 32) :
    String.utf8EncodeChar (Char.ofNat ((a * 64 + b) * 64 + c)) =
      [UInt8.ofNat (a + 224), UInt8.ofNat (b + 128), UInt8.ofNat (c + 128)] := by
  have high : ((a * 64 + b) * 64 + c) / 4096 % 16 = a := by omega
  have middle : ((a * 64 + b) * 64 + c) / 64 % 64 = b := by omega
  have low : ((a * 64 + b) * 64 + c) % 64 = c := by omega
  unfold String.utf8EncodeChar
  dsimp only
  rw [val_ofNat (by omega), if_neg (by omega), if_neg (by omega), if_pos (by omega), high, middle,
    low]

theorem encodeChar_four (ha : a < 5) (hb : b < 64) (hc : c < 64) (hd : d < 64)
    (front : a = 0 → 16 ≤ b) (last : a = 4 → b < 16) :
    String.utf8EncodeChar (Char.ofNat (((a * 64 + b) * 64 + c) * 64 + d)) =
      [UInt8.ofNat (a + 240), UInt8.ofNat (b + 128), UInt8.ofNat (c + 128),
        UInt8.ofNat (d + 128)] := by
  have first : (((a * 64 + b) * 64 + c) * 64 + d) / 262144 % 8 = a := by omega
  have second : (((a * 64 + b) * 64 + c) * 64 + d) / 4096 % 64 = b := by omega
  have third : (((a * 64 + b) * 64 + c) * 64 + d) / 64 % 64 = c := by omega
  have fourth : (((a * 64 + b) * 64 + c) * 64 + d) % 64 = d := by omega
  unfold String.utf8EncodeChar
  dsimp only
  rw [val_ofNat (by omega), if_neg (by omega), if_neg (by omega), if_neg (by omega), first, second,
    third, fourth]

end Characters

/-- The bytes of a character are that character. -/
theorem items_encodeChar (c : Char) (rest : Bytes) :
    itemsFrom none (String.utf8EncodeChar c ++ rest) = .char c :: itemsFrom none rest := by
  have valid : c.val.toNat < 0xD800 ∨ 0xDFFF < c.val.toNat ∧ c.val.toNat < 0x110000 := c.valid
  have back {n : Nat} (h : n = c.val.toNat) : Char.ofNat n = c := h ▸ Char.ofNat_toNat c
  unfold String.utf8EncodeChar
  dsimp only
  split
  · have n : (UInt8.ofNat c.val.toNat).toNat = c.val.toNat := byte_toNat (by omega)
    rw [List.cons_append, itemsFrom_cons, step, start_ascii (by omega), back n]
    rfl
  · split
    · simp only [List.cons_append, List.nil_append]
      rw [items_two (by omega) (by omega) (by omega), back (by omega)]
    · split
      · simp only [List.cons_append, List.nil_append]
        rw [items_three (by omega) (by omega) (by omega) (by omega) (by omega), back (by omega)]
      · simp only [List.cons_append, List.nil_append]
        rw [items_four (by omega) (by omega) (by omega) (by omega) (by omega) (by omega),
          back (by omega)]

/-! ## Items back to characters

A run of items that are all characters never breaks off: after the first byte of a character come
the bytes it still owes, each in its bounds. -/

theorem start_invalid {b : UInt8} (h : 0x80 ≤ b.toNat ∧ b.toNat < 0xC2 ∨ 0xF5 ≤ b.toNat) :
    start b = ([.invalid 1], none) := by
  unfold start
  dsimp only
  rcases h with ⟨low, high⟩ | low
  · rw [if_neg (by omega), if_pos (by omega)]
  · rw [if_neg (by omega), if_neg (by omega), if_neg (by omega), if_neg (by omega),
      if_neg (by omega), if_neg (by omega), if_neg (by omega), if_neg (by omega),
      if_neg (by omega)]

section Pending

variable {bytes : Bytes} {cs : List Char} {seen owed low high bits : Nat}

/-- A character under way goes on with a byte in its bounds. -/
theorem Pending.next {p : Pending} (h : itemsFrom (some p) bytes = cs.map .char) :
    ∃ b rest, bytes = b :: rest ∧ p.low ≤ b.toNat ∧ b.toNat ≤ p.high := by
  have all {i : Item} (mem : i ∈ itemsFrom (some p) bytes) : ∃ c, .char c = i := by
    rw [h] at mem
    obtain ⟨c, -, eq⟩ := List.mem_map.mp mem
    exact ⟨c, eq⟩
  cases bytes with
  | nil =>
    obtain ⟨c, eq⟩ := all List.mem_cons_self
    cases eq
  | cons b rest =>
    by_cases inside : p.low ≤ b.toNat ∧ b.toNat ≤ p.high
    · exact ⟨b, rest, rfl, inside⟩
    · have broken : (p.step b).1 = .invalid p.seen :: (start b).1 := by
        unfold Pending.step
        dsimp only
        rw [if_neg inside]
      have mem : .invalid p.seen ∈ itemsFrom (some p) (b :: rest) := by
        rw [itemsFrom_cons, Utf8.step, broken]
        simp
      obtain ⟨c, eq⟩ := all mem
      cases eq

theorem Pending.items_more
    (h : itemsFrom (some ⟨seen, owed + 1, low, high, bits⟩) bytes = cs.map .char) :
    ∃ b rest, bytes = b :: rest ∧ low ≤ b.toNat ∧ b.toNat ≤ high ∧
      itemsFrom (some ⟨seen + 1, owed, 0x80, 0xBF, bits * 64 + (b.toNat - 0x80)⟩) rest =
        cs.map .char := by
  obtain ⟨b, rest, rfl, above, below⟩ := Pending.next h
  rw [itemsFrom_cons, Utf8.step, Pending.step_more above below] at h
  exact ⟨b, rest, rfl, above, below, h⟩

theorem Pending.items_last
    (h : itemsFrom (some ⟨seen, 0, low, high, bits⟩) bytes = cs.map .char) :
    ∃ b rest cs', bytes = b :: rest ∧ low ≤ b.toNat ∧ b.toNat ≤ high ∧
      cs = Char.ofNat (bits * 64 + (b.toNat - 0x80)) :: cs' ∧
      itemsFrom none rest = cs'.map .char := by
  obtain ⟨b, rest, rfl, above, below⟩ := Pending.next h
  rw [itemsFrom_cons, Utf8.step, Pending.step_last above below] at h
  obtain ⟨c, cs', rfl, same, others⟩ := List.map_eq_cons_iff.mp h.symm
  exact ⟨b, rest, cs', rfl, above, below, congrArg (· :: cs') (Item.char.inj same), others.symm⟩

end Pending

/-- Where all items are characters, the bytes start with those of the first one. -/
theorem items_front {b : UInt8} {rest : Bytes} {cs : List Char}
    (h : itemsFrom none (b :: rest) = cs.map .char) : ∃ c cs' tail, cs = c :: cs' ∧
      b :: rest = String.utf8EncodeChar c ++ tail ∧ itemsFrom none tail = cs'.map .char := by
  have size := b.toNat_lt
  have byte {v : UInt8} {n : Nat} (eq : n = v.toNat) : UInt8.ofNat n = v := by
    rw [eq, UInt8.ofNat_toNat]
  rw [itemsFrom_cons, step] at h
  rcases (by omega : b.toNat < 0x80 ∨ (0x80 ≤ b.toNat ∧ b.toNat < 0xC2 ∨ 0xF5 ≤ b.toNat) ∨
    0xC2 ≤ b.toNat ∧ b.toNat < 0xE0 ∨ 0xE0 ≤ b.toNat ∧ b.toNat < 0xF0 ∨
    0xF0 ≤ b.toNat ∧ b.toNat < 0xF5) with
    ascii | bad | ⟨above, below⟩ | ⟨above, below⟩ | ⟨above, below⟩
  · rw [start_ascii ascii] at h
    obtain ⟨c, cs', rfl, same, others⟩ := List.map_eq_cons_iff.mp h.symm
    cases same
    exact ⟨_, cs', rest, rfl, by rw [encodeChar_ascii ascii]; rfl, others.symm⟩
  · rw [start_invalid bad] at h
    obtain ⟨c, cs', rfl, same, others⟩ := List.map_eq_cons_iff.mp h.symm
    cases same
  · rw [start_two above below] at h
    obtain ⟨b₂, tail, cs', rfl, low₂, high₂, rfl, others⟩ := Pending.items_last h
    refine ⟨_, cs', tail, rfl, ?_, others⟩
    rw [encodeChar_two (by omega) (by omega) (by omega), byte (v := b) (by omega),
      byte (v := b₂) (by omega)]
    rfl
  · rw [start_three above below] at h
    obtain ⟨b₂, tail₂, rfl, low₂, high₂, later⟩ := Pending.items_more h
    obtain ⟨b₃, tail, cs', rfl, low₃, high₃, rfl, others⟩ := Pending.items_last later
    refine ⟨_, cs', tail, rfl, ?_, others⟩
    split at low₂ <;> split at high₂ <;>
      (rw [encodeChar_three (by omega) (by omega) (by omega) (by omega) (by omega),
        byte (v := b) (by omega), byte (v := b₂) (by omega), byte (v := b₃) (by omega)]; rfl)
  · rw [start_four above below] at h
    obtain ⟨b₂, tail₂, rfl, low₂, high₂, later⟩ := Pending.items_more h
    obtain ⟨b₃, tail₃, rfl, low₃, high₃, later⟩ := Pending.items_more later
    obtain ⟨b₄, tail, cs', rfl, low₄, high₄, rfl, others⟩ := Pending.items_last later
    refine ⟨_, cs', tail, rfl, ?_, others⟩
    split at low₂ <;> split at high₂ <;>
      (rw [encodeChar_four (by omega) (by omega) (by omega) (by omega) (by omega) (by omega),
        byte (v := b) (by omega), byte (v := b₂) (by omega), byte (v := b₃) (by omega),
        byte (v := b₄) (by omega)]; rfl)

/-! ## Texts -/

theorem items_flatMap (cs : List Char) :
    items (cs.flatMap String.utf8EncodeChar) = cs.map .char := by
  induction cs with
  | nil => rfl
  | cons c cs ih =>
    rw [List.flatMap_cons, items, items_encodeChar, List.map_cons]
    exact congrArg _ ih

theorem chars_map (index : Nat) (cs : List Char) : chars index (cs.map .char) = .ok cs := by
  induction cs generalizing index with
  | nil => rfl
  | cons c cs ih => simp [chars, ih]

/-- A text is read back from its bytes. -/
theorem decode_encode (text : String) : decode (encode text) = .ok text := by
  rw [decode, encode, items_flatMap, chars_map]
  simp

/-- Where all items are characters, the bytes are theirs. -/
theorem flatMap_of_items {bytes : Bytes} {cs : List Char} (h : items bytes = cs.map .char) :
    cs.flatMap String.utf8EncodeChar = bytes := by
  cases bytes with
  | nil =>
    obtain rfl := List.map_eq_nil_iff.mp h.symm
    rfl
  | cons b rest =>
    obtain ⟨c, cs', tail, rfl, eq, others⟩ := items_front h
    have shorter : tail.length < (b :: rest).length := by
      rw [eq, List.length_append, String.length_utf8EncodeChar]
      have := c.utf8Size_pos
      omega
    rw [eq, List.flatMap_cons, flatMap_of_items others]
termination_by bytes.length

theorem eq_map_of_chars {index : Nat} {found : List Item} {cs : List Char}
    (h : chars index found = .ok cs) : found = cs.map .char := by
  induction found generalizing index cs with
  | nil =>
    cases h
    rfl
  | cons i found ih =>
    cases i with
    | char c =>
      rw [chars] at h
      split at h
      · rename_i more rest
        cases h
        rw [ih rest, List.map_cons]
      · cases h
    | invalid size => cases h
    | incomplete size => cases h

/-- A text is decoded from its own bytes only. -/
theorem encode_of_decode {bytes : Bytes} {text : String} (h : decode bytes = .ok text) :
    encode text = bytes := by
  unfold decode at h
  split at h
  · rename_i cs found
    cases h
    rw [encode, String.toList_ofList]
    exact flatMap_of_items (eq_map_of_chars found)
  · cases h

theorem zero_notMem_encodeChar {c : Char} (h : c ≠ '\x00') : 0 ∉ String.utf8EncodeChar c := by
  have positive : c.val.toNat ≠ 0 := fun zero => h (Char.toNat_inj.mp zero)
  have other {n : Nat} (small : n < 256) (pos : n ≠ 0) : 0 ≠ UInt8.ofNat n := by
    intro zero
    have same : 0 = (UInt8.ofNat n).toNat := congrArg UInt8.toNat zero
    rw [byte_toNat small] at same
    exact pos same.symm
  intro mem
  unfold String.utf8EncodeChar at mem
  dsimp only at mem
  split at mem
  · exact other (by omega) positive (List.mem_singleton.mp mem)
  · split at mem
    · simp only [List.mem_cons, List.not_mem_nil, or_false] at mem
      rcases mem with zero | zero <;> exact other (by omega) (by omega) zero
    · split at mem
      · simp only [List.mem_cons, List.not_mem_nil, or_false] at mem
        rcases mem with zero | zero | zero <;> exact other (by omega) (by omega) zero
      · simp only [List.mem_cons, List.not_mem_nil, or_false] at mem
        rcases mem with zero | zero | zero | zero <;> exact other (by omega) (by omega) zero

/-- A text without a NUL has none among its bytes. -/
theorem zero_notMem_encode {text : String} (h : '\x00' ∉ text.toList) : 0 ∉ encode text := by
  intro mem
  obtain ⟨c, hc, hz⟩ := List.mem_flatMap.mp mem
  exact zero_notMem_encodeChar (fun zero => h (zero ▸ hc)) hz

/-- The NUL is a byte of its own. -/
theorem zero_mem_encode {text : String} : 0 ∈ encode text ↔ '\x00' ∈ text.toList := by
  constructor
  · intro zero
    by_cases mem : '\x00' ∈ text.toList
    · exact mem
    · exact absurd zero (zero_notMem_encode mem)
  · intro mem
    exact List.mem_flatMap.mpr ⟨'\x00', mem, by decide⟩

end HostLink.Utf8
