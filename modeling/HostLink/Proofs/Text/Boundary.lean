import HostLink.Proofs.Text.Utf8

/-!
# HostLink.Proofs.Text.Boundary

Cutting the bytes of a text. The first byte of a character never goes on with another one, and the
others always do, so the places where a cut leaves the characters whole are the ends of characters.
Going down from any place, the search for such a place stops, at the latest before the first byte
(`cutFrom_encode`), and it stops behind the characters that have their bytes before that place
(`lastBoundary_encode`).

* `fitting` — the characters in front whose bytes are so many at most; `prefix_fitting` says that no
  longer front of the text has so few.
-/

namespace HostLink.Utf8

/-- The search for a place to cut, from a place downwards, which fails if it goes below the first
byte. -/
def cutFrom (bytes : Bytes) : Nat → Option Nat
  | 0 => if isBoundary bytes 0 then some 0 else none
  | n + 1 => if isBoundary bytes (n + 1) then some (n + 1) else cutFrom bytes n

/-- The characters in front whose bytes are `n` at most. -/
def fitting : Nat → List Char → List Char
  | _, [] => []
  | n, c :: cs => if c.utf8Size ≤ n then c :: fitting (n - c.utf8Size) cs else []

/-! ## The bytes of a character -/

/-- A byte that goes on with a character. -/
def Continues (b : UInt8) : Prop := 0x80 ≤ b.toNat ∧ b.toNat < 0xC0

theorem isBoundary_of_some {bytes : Bytes} {n : Nat} {b : UInt8} (at_n : bytes[n]? = some b) :
    isBoundary bytes n = true ↔ ¬ Continues b := by
  simp only [isBoundary, at_n, Continues, Bool.or_eq_true, decide_eq_true_eq,
    UInt8.lt_iff_toNat_lt, UInt8.le_iff_toNat_le, UInt8.reduceToNat]
  omega

theorem encodeChar_bytes (c : Char) : ∃ b more, String.utf8EncodeChar c = b :: more ∧
    ¬ Continues b ∧ ∀ x ∈ more, Continues x := by
  have valid : c.val.toNat < 0x110000 := by
    have : c.val.toNat < 0xD800 ∨ 0xDFFF < c.val.toNat ∧ c.val.toNat < 0x110000 := c.valid
    omega
  have first {n : Nat} (small : n < 256) (outside : n < 0x80 ∨ 0xC0 ≤ n) :
      ¬ Continues (UInt8.ofNat n) := by
    rw [Continues, byte_toNat small]
    omega
  have later {n : Nat} : Continues (UInt8.ofNat (n % 64 + 0x80)) := by
    rw [Continues, byte_toNat (by omega)]
    omega
  unfold String.utf8EncodeChar
  dsimp only
  split
  · exact ⟨_, [], rfl, first (by omega) (by omega), by simp⟩
  · split
    · refine ⟨_, _, rfl, first (by omega) (by omega), ?_⟩
      simp only [List.forall_mem_cons]
      exact ⟨later, by simp⟩
    · split
      · refine ⟨_, _, rfl, first (by omega) (by omega), ?_⟩
        simp only [List.forall_mem_cons]
        exact ⟨later, later, by simp⟩
      · refine ⟨_, _, rfl, first (by omega) (by omega), ?_⟩
        simp only [List.forall_mem_cons]
        exact ⟨later, later, later, by simp⟩

/-! ## Places to cut -/

/-- Inside a character there is no place to cut. -/
theorem isBoundary_inside {c : Char} {n : Nat} (inside : n + 1 < c.utf8Size) (rest : Bytes) :
    isBoundary (String.utf8EncodeChar c ++ rest) (n + 1) = false := by
  obtain ⟨b, more, eq, -, later⟩ := encodeChar_bytes c
  have long : n < more.length := by
    have size := String.length_utf8EncodeChar c
    rw [eq, List.length_cons] at size
    omega
  have at_n : (String.utf8EncodeChar c ++ rest)[n + 1]? = some more[n] := by
    rw [eq, List.cons_append, List.getElem?_cons_succ, List.getElem?_append_left long,
      List.getElem?_eq_getElem long]
  refine eq_false_of_ne_true fun boundary => ?_
  exact (isBoundary_of_some at_n).mp boundary (later _ (List.getElem_mem long))

/-- Before the first character there is one. -/
theorem isBoundary_zero (cs : List Char) :
    isBoundary (cs.flatMap String.utf8EncodeChar) 0 = true := by
  cases cs with
  | nil => rfl
  | cons c cs =>
    obtain ⟨b, more, eq, first, -⟩ := encodeChar_bytes c
    have at_zero : ((c :: cs).flatMap String.utf8EncodeChar)[0]? = some b := by
      rw [List.flatMap_cons, eq]
      rfl
    exact (isBoundary_of_some at_zero).mpr first

theorem isBoundary_append (front rest : Bytes) (n : Nat) :
    isBoundary (front ++ rest) (front.length + n) = isBoundary rest n := by
  unfold isBoundary
  rw [List.getElem?_append_right (Nat.le_add_right _ _), Nat.add_sub_cancel_left]

theorem lastBoundary_inside {c : Char} {n : Nat} (inside : n < c.utf8Size) (rest : Bytes) :
    lastBoundary (String.utf8EncodeChar c ++ rest) n = 0 := by
  induction n with
  | zero => rfl
  | succ n ih =>
    rw [lastBoundary, isBoundary_inside inside rest]
    exact ih (by omega)

theorem lastBoundary_append (front : Bytes) {rest : Bytes} (start : isBoundary rest 0 = true)
    (n : Nat) :
    lastBoundary (front ++ rest) (front.length + n) = front.length + lastBoundary rest n := by
  induction n with
  | zero =>
    have here := isBoundary_append front rest 0
    rw [start] at here
    cases long : front.length with
    | zero => rfl
    | succ k =>
      rw [long] at here
      simp only [Nat.add_zero, lastBoundary] at here ⊢
      rw [if_pos here]
  | succ n ih =>
    have here := isBoundary_append front rest (n + 1)
    rw [← Nat.add_assoc] at here ⊢
    rw [lastBoundary, lastBoundary, here]
    by_cases stop : isBoundary rest (n + 1) = true
    · simp [stop, Nat.add_assoc]
    · simp [stop, ih]

/-- The search stops, at the latest before the first byte. -/
theorem cutFrom_encode (text : String) (n : Nat) :
    cutFrom (encode text) n = some (lastBoundary (encode text) n) := by
  induction n with
  | zero => exact if_pos (isBoundary_zero text.toList)
  | succ n ih =>
    rw [cutFrom, lastBoundary]
    split
    · rfl
    · exact ih

/-! ## Fronts of a text -/

theorem fitting_prefix (n : Nat) (cs : List Char) : fitting n cs <+: cs := by
  induction cs generalizing n with
  | nil => exact List.nil_prefix
  | cons c cs ih =>
    rw [fitting]
    split
    · exact List.cons_prefix_cons.mpr ⟨rfl, ih _⟩
    · exact List.nil_prefix

theorem length_fitting (n : Nat) (cs : List Char) :
    ((fitting n cs).flatMap String.utf8EncodeChar).length ≤ n := by
  induction cs generalizing n with
  | nil => simp [fitting]
  | cons c cs ih =>
    rw [fitting]
    split
    · have others := ih (n - c.utf8Size)
      rw [List.flatMap_cons, List.length_append, String.length_utf8EncodeChar]
      omega
    · simp

/-- No front with so few bytes is longer. -/
theorem prefix_fitting {n : Nat} {cs front : List Char} (isFront : front <+: cs)
    (short : (front.flatMap String.utf8EncodeChar).length ≤ n) : front <+: fitting n cs := by
  induction cs generalizing n front with
  | nil =>
    rw [List.prefix_nil.mp isFront]
    exact List.nil_prefix
  | cons c cs ih =>
    cases front with
    | nil => exact List.nil_prefix
    | cons d front =>
      obtain ⟨rfl, others⟩ := List.cons_prefix_cons.mp isFront
      rw [List.flatMap_cons, List.length_append, String.length_utf8EncodeChar] at short
      rw [fitting, if_pos (by omega)]
      exact List.cons_prefix_cons.mpr ⟨rfl, ih others (by omega)⟩

/-- Two bytes are left for the last character, which has three. -/
example : fitting 5 ['a', 'é', '€'] = ['a', 'é'] := by decide

/-- The search stops behind the characters whose bytes are before the place where it began. -/
theorem lastBoundary_encode {n : Nat} {cs : List Char}
    (h : n ≤ (cs.flatMap String.utf8EncodeChar).length) :
    lastBoundary (cs.flatMap String.utf8EncodeChar) n =
      ((fitting n cs).flatMap String.utf8EncodeChar).length := by
  induction cs generalizing n with
  | nil =>
    obtain rfl : n = 0 := Nat.le_zero.mp h
    rfl
  | cons c cs ih =>
    have size := String.length_utf8EncodeChar c
    rw [List.flatMap_cons, List.length_append, size] at h
    rw [List.flatMap_cons, fitting]
    by_cases fits : c.utf8Size ≤ n
    -- the search begins behind the first character and stops there at the latest
    · have others := ih (n := n - c.utf8Size) (by omega)
      have step := lastBoundary_append (String.utf8EncodeChar c) (isBoundary_zero cs)
        (n - c.utf8Size)
      rw [size, Nat.add_sub_cancel' fits, others] at step
      rw [step, if_pos fits, List.flatMap_cons, List.length_append, size]
    · rw [if_neg fits, lastBoundary_inside (Nat.not_le.mp fits)]
      rfl

/-- What is cut off there are the bytes of these characters. -/
theorem take_lastBoundary {n : Nat} {text : String} (h : n ≤ (encode text).length) :
    (encode text).take (lastBoundary (encode text) n) =
      (fitting n text.toList).flatMap String.utf8EncodeChar := by
  obtain ⟨others, eq⟩ := fitting_prefix n text.toList
  have laid : text.toList.flatMap String.utf8EncodeChar =
      (fitting n text.toList).flatMap String.utf8EncodeChar ++
        others.flatMap String.utf8EncodeChar := by
    rw [← List.flatMap_append, eq]
  rw [encode, lastBoundary_encode h, laid, List.take_left]

end HostLink.Utf8
