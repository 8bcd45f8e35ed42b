import HostLink.Proofs.Callback.Encoding

/-!
# HostLink.Proofs.Callback.Decoding

Which bytes a runtime reads as a call. They are the bytes of the call that it then sees, except that
a text at the very end may have lost its NUL, and with it any number of empty texts behind it, of
which nothing but their NULs would be there (`EndsOpen`).

* `decodeParam_eq_ok`, `decodeParams_eq_ok` — what is read as one parameter, and as all.
* `decodeCall_iff_isCall` — what is read as a call. An array cannot be larger than the bytes are, so
  the cells read are at most a quarter of them.
-/

namespace HostLink.Callback

/-- The parameter can come of reading the kind. -/
inductive Kind.Reads : Kind → Param → Prop where
  | value (v : Int32) : Reads .value (.int v)
  | text {t : String} (free : '\x00' ∉ t.toList) : Reads .text (.text t)
  | array (index : UInt32) {cells : List Int32} (short : cells.length < 4294967296) :
      Reads (.array index) (.array cells)

/-- The last `k` of the fields are texts, and all but the first of those are empty. -/
def EndsOpen (k : Nat) (fields : List Param) : Prop :=
  ∃ (front : List Param) (texts : List String), fields = front ++ texts.map .text ∧
    texts.length = k ∧ ∀ t ∈ texts.tail, t = ""

/-- The bytes are a call as the runtime sees it, up to NULs that are missing at the end. -/
structure IsCall (signature : Signature) (hasCaller : Bool) (bytes : Bytes) (d : DecodedCall) :
    Prop where
  caller : d.caller.isSome = hasCaller
  free : '\x00' ∉ d.name.toList
  kinds : List.Forall₂ Kind.Reads signature d.params
  laid : ∃ k, EndsOpen k (.text d.name :: d.params) ∧
    callBytes d.caller d.name d.params = bytes ++ List.replicate k 0

/-! ## One parameter -/

theorem encode_cells (cells : List Int32) : (cells.map Cell.Field.cell).flatMap Cell.Field.encode =
    cells.flatMap fun v => Bytes.ofU32 v.toUInt32 := by
  rw [List.flatMap_map]
  rfl

theorem decodeCells_eq_ok {n : Nat} {bytes rest : Bytes} {cells : List Int32}
    (h : decodeCells n bytes = .ok (cells, rest)) :
    cells.length = n ∧ bytes = (cells.flatMap fun v => Bytes.ofU32 v.toUInt32) ++ rest := by
  induction n generalizing bytes cells with
  | zero =>
    cases h
    exact ⟨rfl, rfl⟩
  | succ n ih =>
    rw [decodeCells] at h
    split at h
    · cases h
    · rename_i v rest' first
      split at h
      · cases h
      · rename_i others read
        cases h
        obtain ⟨rfl, rfl⟩ := ih read
        rw [Cell.Read.cell_eq_ok.mp first, List.flatMap_cons, List.append_assoc]
        exact ⟨rfl, rfl⟩

theorem decodeParam_array_eq_ok {index : UInt32} {bytes rest : Bytes} {p : Param} :
    decodeParam (.array index) bytes = .ok (p, rest) ↔
      (Kind.array index).Reads p ∧ bytes = p.encode ++ rest := by
  constructor
  · intro h
    rw [decodeParam] at h
    split at h
    · cases h
    · rename_i count rest' counted
      split at h
      · cases h
      · split at h
        · rename_i cells rest'' read
          cases h
          obtain ⟨long, rfl⟩ := decodeCells_eq_ok read
          have same : UInt32.ofNat cells.length = count := by rw [long, UInt32.ofNat_toNat]
          refine ⟨.array index (long ▸ count.toNat_lt), ?_⟩
          rw [Cell.Read.word_eq_ok.mp counted, Param.encode, same, List.append_assoc]
        · cases h
  · rintro ⟨reads, rfl⟩
    cases reads with
    | @array _ cells short =>
      have read := decodeParam_array index short rest
      rwa [encode_cells, ← List.append_assoc] at read

/-- A parameter is read from its own bytes, or, a text at the end, from those without the NUL. -/
theorem decodeParam_eq_ok {kind : Kind} {bytes rest : Bytes} {p : Param} :
    decodeParam kind bytes = .ok (p, rest) ↔ kind.Reads p ∧
      (bytes = p.encode ++ rest ∨ ∃ t, p = .text t ∧ bytes = Utf8.encode t ∧ rest = []) := by
  cases kind with
  | value =>
    rw [decodeParam]
    constructor
    · intro h
      split at h
      · rename_i v rest' read
        cases h
        exact ⟨.value v, .inl (Cell.Read.cell_eq_ok.mp read)⟩
      · cases h
    · rintro ⟨reads, laid⟩
      cases reads with
      | value v =>
        rcases laid with rfl | ⟨t, absurd, -⟩
        · rw [Param.encode, Cell.Read.cell_eq_ok.mpr rfl]
        · cases absurd
  | text =>
    rw [decodeParam]
    constructor
    · intro h
      split at h
      · rename_i t rest' read
        cases h
        obtain ⟨free, closed | ends⟩ := Cell.Read.text_eq_ok.mp read
        · exact ⟨.text free, .inl (by simp [closed, Param.encode])⟩
        · exact ⟨.text free, .inr ⟨t, rfl, ends⟩⟩
      · cases h
    · rintro ⟨reads, laid⟩
      cases reads with
      | @text t free =>
        have read : Cell.Read.text bytes = .ok (t, rest) := by
          refine Cell.Read.text_eq_ok.mpr ⟨free, ?_⟩
          rcases laid with rfl | ⟨t', same, ends⟩
          · exact .inl (by simp [Param.encode])
          · cases same
            exact .inr ends
        rw [read]
  | array index =>
    rw [decodeParam_array_eq_ok]
    constructor
    · rintro ⟨reads, laid⟩
      exact ⟨reads, .inl laid⟩
    · rintro ⟨reads, laid⟩
      cases reads with
      | array _ short =>
        rcases laid with laid | ⟨t, absurd, -⟩
        · exact ⟨.array index short, laid⟩
        · cases absurd

/-! ## Texts at the end -/

theorem encode_empty_texts (n : Nat) :
    ((List.replicate n "").map Param.text).flatMap Param.encode = List.replicate n 0 := by
  induction n with
  | zero => rfl
  | succ n ih =>
    rw [List.replicate_succ, List.map_cons, List.flatMap_cons, ih]
    rfl

/-- The cells of an array, and none of any other parameter. -/
def Param.cells : Param → List Int32
  | .array cells => cells
  | _ => []

theorem Param.length_cells_le (p : Param) : 4 * p.cells.length ≤ p.encode.length := by
  cases p with
  | array cells =>
    rw [encode, List.length_append, ← encode_cells, length_cells]
    exact Nat.le_add_left _ _
  | _ => exact Nat.zero_le _

theorem length_cells_le (ps : List Param) :
    4 * (ps.flatMap Param.cells).length ≤ (ps.flatMap Param.encode).length := by
  induction ps with
  | nil => exact Nat.le_refl 0
  | cons p ps ih =>
    have first := p.length_cells_le
    simp only [List.flatMap_cons, List.length_append]
    omega

namespace EndsOpen

variable {k : Nat} {fields : List Param}

theorem zero (fields : List Param) : EndsOpen 0 fields := ⟨fields, [], by simp, rfl, by simp⟩

theorem cons (h : EndsOpen k fields) (p : Param) : EndsOpen k (p :: fields) := by
  obtain ⟨front, texts, rfl, count, empty⟩ := h
  exact ⟨p :: front, texts, rfl, count, empty⟩

theorem texts (t : String) (n : Nat) :
    EndsOpen (n + 1) (.text t :: (List.replicate n "").map .text) :=
  ⟨[], t :: List.replicate n "", rfl, by simp, fun _ mem => List.eq_of_mem_replicate mem⟩

theorem empty (n : Nat) : EndsOpen n ((List.replicate n "").map .text) :=
  ⟨[], List.replicate n "", rfl, by simp,
    fun _ mem => List.eq_of_mem_replicate (List.mem_of_mem_tail mem)⟩

/-- The open end begins behind the first field, or with it. -/
theorem cases {p : Param} (h : EndsOpen k (p :: fields)) : EndsOpen k fields ∨
    ∃ t n, p = .text t ∧ fields = (List.replicate n "").map .text ∧ k = n + 1 := by
  obtain ⟨front, texts, eq, count, empty⟩ := h
  cases front with
  | cons q front =>
    obtain ⟨rfl, rfl⟩ := List.cons.inj eq
    exact .inl ⟨front, texts, rfl, count, empty⟩
  | nil =>
    cases texts with
    | nil => cases eq
    | cons t more =>
      obtain ⟨rfl, rfl⟩ := List.cons.inj eq
      have same : more = List.replicate more.length "" := List.eq_replicate_of_mem empty
      exact .inr ⟨t, more.length, rfl, by rw [← same], by simp [← count]⟩

/-- Each text at the end has a byte at least, besides the cells of all arrays. -/
theorem le_length (h : EndsOpen k fields) :
    4 * (fields.flatMap Param.cells).length + k ≤ (fields.flatMap Param.encode).length := by
  obtain ⟨front, texts, rfl, rfl, -⟩ := h
  have cells := length_cells_le front
  have ends : 4 * ((texts.map Param.text).flatMap Param.cells).length + texts.length ≤
      ((texts.map Param.text).flatMap Param.encode).length := by
    induction texts with
    | nil => exact Nat.le_refl 0
    | cons t texts ih =>
      have one : (Param.text t).encode.length = (Utf8.encode t).length + 1 := by simp [Param.encode]
      have none : (Param.text t).cells = [] := rfl
      simp only [List.map_cons, List.flatMap_cons, List.length_append, List.length_cons,
        List.length_nil, one, none]
      omega
  simp only [List.flatMap_append, List.length_append]
  omega

end EndsOpen

/-- Where NULs are missing at the end of something long enough, they are missing at its own end. -/
theorem split_missing {front whole bytes : Bytes} {k : Nat} (long : k ≤ whole.length)
    (eq : front ++ whole = bytes ++ List.replicate k 0) :
    ∃ more, bytes = front ++ more ∧ whole = more ++ List.replicate k 0 := by
  rcases List.append_eq_append_iff.mp eq with ⟨more, rfl, rest⟩ | ⟨more, rfl, rest⟩
  · exact ⟨more, rfl, rest⟩
  · have count := congrArg List.length rest
    rw [List.length_replicate, List.length_append] at count
    obtain rfl : more = [] := List.eq_nil_of_length_eq_zero (by omega)
    exact ⟨[], by simp, by simp [rest]⟩

/-! ## All parameters -/

theorem Param.encode_ne_nil (p : Param) : p.encode ≠ [] := by
  cases p <;> simp [encode, Bytes.ofU32]

/-- At the end of the bytes only empty texts can be read. -/
theorem decodeParams_nil {signature : Signature} {ps : List Param}
    (h : decodeParams signature [] = .ok (ps, [])) :
    ps = (List.replicate ps.length "").map .text := by
  induction signature generalizing ps with
  | nil =>
    cases h
    rfl
  | cons kind kinds ih =>
    rw [decodeParams] at h
    split at h
    · cases h
    · rename_i p rest first
      split at h
      · cases h
      · rename_i others rest' read
        cases h
        obtain ⟨-, whole | ⟨t, rfl, bare, rfl⟩⟩ := decodeParam_eq_ok.mp first
        · exact absurd (List.append_eq_nil_iff.mp whole.symm).1 p.encode_ne_nil
        · have nothing := Utf8.decode_encode t
          rw [← bare] at nothing
          cases nothing
          rw [List.length_cons, List.replicate_succ, List.map_cons, ← ih read]

theorem laid_of_decodeParams {signature : Signature} {bytes : Bytes} {ps : List Param}
    (h : decodeParams signature bytes = .ok (ps, [])) : List.Forall₂ Kind.Reads signature ps ∧
      ∃ k, EndsOpen k ps ∧ ps.flatMap Param.encode = bytes ++ List.replicate k 0 := by
  induction signature generalizing bytes ps with
  | nil =>
    cases h
    exact ⟨.nil, 0, .zero [], rfl⟩
  | cons kind kinds ih =>
    rw [decodeParams] at h
    split at h
    · cases h
    · rename_i p rest first
      split at h
      · cases h
      · rename_i others rest' read
        cases h
        obtain ⟨reads, k, ends, laid⟩ := ih read
        obtain ⟨one, whole | ⟨t, rfl, bare, rfl⟩⟩ := decodeParam_eq_ok.mp first
        · refine ⟨.cons one reads, k, ends.cons p, ?_⟩
          rw [List.flatMap_cons, laid, whole, List.append_assoc]
        -- the bytes end with this text, so that the texts behind it are empty
        · have empty := decodeParams_nil read
          refine ⟨.cons one reads, others.length + 1, ?_, ?_⟩
          · rw [empty, List.length_map, List.length_replicate]
            exact .texts t _
          · rw [List.flatMap_cons, empty, encode_empty_texts, bare, List.length_map,
              List.length_replicate, Param.encode, List.append_assoc]
            rfl

theorem decodeParams_of_laid {signature : Signature} {bytes : Bytes} {ps : List Param} {k : Nat}
    (reads : List.Forall₂ Kind.Reads signature ps) (ends : EndsOpen k ps)
    (laid : ps.flatMap Param.encode = bytes ++ List.replicate k 0) :
    decodeParams signature bytes = .ok (ps, []) := by
  induction reads generalizing bytes k with
  | nil =>
    obtain ⟨rfl, -⟩ := List.append_eq_nil_iff.mp laid.symm
    rfl
  | @cons kind p kinds ps one others ih =>
    have next {rest : Bytes} {k : Nat} (first : decodeParam kind bytes = .ok (p, rest))
        (ends : EndsOpen k ps) (laid : ps.flatMap Param.encode = rest ++ List.replicate k 0) :
        decodeParams (kind :: kinds) bytes = .ok (p :: ps, []) := by
      rw [decodeParams, first]
      dsimp only
      rw [ih ends laid]
    rw [List.flatMap_cons] at laid
    rcases ends.cases with ends | ⟨t, n, rfl, rfl, rfl⟩
    · have long : k ≤ (ps.flatMap Param.encode).length := by
        have := ends.le_length
        omega
      obtain ⟨rest, rfl, behind⟩ := split_missing long laid
      exact next (decodeParam_eq_ok.mpr ⟨one, .inl rfl⟩) ends behind
    · rw [encode_empty_texts, Param.encode, List.append_assoc] at laid
      obtain rfl : Utf8.encode t = bytes := List.append_cancel_right laid
      exact next (decodeParam_eq_ok.mpr ⟨one, .inr ⟨t, rfl, rfl, rfl⟩⟩) (.empty n)
        (encode_empty_texts n)

/-! ## Calls -/

theorem decodeCaller_eq_ok {hasCaller : Bool} {bytes rest : Bytes} {caller : Option UInt16} :
    decodeCaller hasCaller bytes = .ok (caller, rest) ↔
      caller.isSome = hasCaller ∧ bytes = (caller.map Bytes.ofU16).getD [] ++ rest := by
  cases hasCaller with
  | false =>
    cases caller with
    | none => simp [decodeCaller]
    | some c => simp [decodeCaller]
  | true =>
    rw [decodeCaller, if_pos rfl]
    constructor
    · intro h
      split at h
      · rename_i c rest' read
        cases h
        exact ⟨rfl, Cell.Read.u16_eq_ok.mp read⟩
      · cases h
    · rintro ⟨wanted, rfl⟩
      obtain ⟨c, rfl⟩ := Option.isSome_iff_exists.mp wanted
      rw [Option.map_some, Option.getD_some, Cell.Read.u16_eq_ok.mpr rfl]

/-- Behind the caller the name is read as one more text. -/
theorem decodeCall_eq_ok {signature : Signature} {hasCaller : Bool} {bytes : Bytes}
    {d : DecodedCall} : decodeCall signature hasCaller bytes = .ok d ↔
      ∃ rest, decodeCaller hasCaller bytes = .ok (d.caller, rest) ∧
        decodeParams (.text :: signature) rest = .ok (.text d.name :: d.params, []) := by
  rw [decodeCall]
  cases decodeCaller hasCaller bytes with
  | error e => simp
  | ok called =>
    obtain ⟨caller, rest⟩ := called
    simp only [Except.ok.injEq, Prod.mk.injEq, and_assoc, exists_and_left, exists_eq_left']
    rw [decodeParams, decodeParam]
    cases Cell.Read.text rest with
    | error e => simp
    | ok named =>
      obtain ⟨name, rest⟩ := named
      dsimp only
      rcases decodeParams signature rest with e | ⟨ps, _ | ⟨b, more⟩⟩
      · simp
      · cases d
        simp
      · simp

/-- What is read as a call are its bytes, up to the NULs of texts at the very end that can be
missing: all of those texts but the first are empty. The cells read are at most a quarter of the
bytes. -/
theorem decodeCall_iff_isCall {signature : Signature} {hasCaller : Bool} {bytes : Bytes}
    {d : DecodedCall} : decodeCall signature hasCaller bytes = .ok d ↔
      IsCall signature hasCaller bytes d ∧
        (d.params.flatMap Param.cells).length ≤ bytes.length / 4 := by
  rw [decodeCall_eq_ok]
  constructor
  · rintro ⟨rest, called, read⟩
    obtain ⟨wanted, rfl⟩ := decodeCaller_eq_ok.mp called
    obtain ⟨reads, k, ends, laid⟩ := laid_of_decodeParams read
    obtain ⟨named, kinds⟩ := List.forall₂_cons.mp reads
    refine ⟨⟨wanted, by cases named; assumption, kinds, k, ends, ?_⟩, ?_⟩
    · rw [callBytes, laid, List.append_assoc]
    · have cells := ends.le_length
      rw [laid] at cells
      simp only [List.flatMap_cons, Param.cells, List.nil_append, List.length_append,
        List.length_replicate] at cells ⊢
      omega
  · rintro ⟨⟨wanted, free, kinds, k, ends, laid⟩, -⟩
    have long := ends.le_length
    obtain ⟨rest, rfl, behind⟩ := split_missing (by omega) laid
    exact ⟨rest, decodeCaller_eq_ok.mpr ⟨wanted, rfl⟩,
      decodeParams_of_laid (.cons (.text free) kinds) ends behind⟩

/-- The NUL of the text at the end is missing, and of the text behind it there is nothing left. -/
theorem decodeCall_iff_cut :
    IsCall [.value, .array 0, .text, .text] true
      [9, 0, 72, 105, 0, 1, 0, 0, 0, 1, 0, 0, 0, 255, 255, 255, 255, 97]
      ⟨some 9, "Hi", [.int 1, .array [-1], .text "a", .text ""]⟩ :=
  (decodeCall_iff_isCall.mp rfl).1

end HostLink.Callback
