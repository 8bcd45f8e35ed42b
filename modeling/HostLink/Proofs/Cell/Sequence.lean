import HostLink.Proofs.Cell.RoundTrip

/-!
# HostLink.Proofs.Cell.Sequence

Fields that are offered to a writer one after the other, taken or not, and read back one after the
other. A field is refused for want of room, or, a text, for a NUL inside, and for nothing else
(`Writer.offer_error_iff`); what is refused leaves no byte behind. So the writer ends with the bytes
it began with and those of the fields that it took, and a reader finds these fields in them again. A
read that succeeds has gone over a front of the bytes (`Reader.take_eq_ok`), one that fails over
nothing.

* `Writer.offerAll`, `Reader.takeAll` — a sequence of offers, and a sequence of reads.
* `Writer.offered_read` — what is taken in a sequence of offers is read in a sequence of reads.
-/

namespace HostLink.Cell

/-! ## One read -/

/-- The bytes are those of the field and then a rest; a text that nothing follows may lack its
NUL. -/
inductive Field.Leads : Field → Bytes → Bytes → Prop where
  | whole (f : Field) (rest : Bytes) : Leads f (f.encode ++ rest) rest
  | unended (t : String) : Leads (.text t) (Utf8.encode t) []

namespace Field.Leads

theorem front {f : Field} {bytes rest : Bytes} (leads : f.Leads bytes rest) :
    ∃ front, bytes = front ++ rest := by
  cases leads with
  | whole f rest => exact ⟨f.encode, rfl⟩
  | unended t => exact ⟨Utf8.encode t, (List.append_nil _).symm⟩

theorem eq {f : Field} {bytes rest : Bytes} (leads : f.Leads bytes rest)
    (ended : f.shape? ≠ some .text) : bytes = f.encode ++ rest := by
  cases leads with
  | whole f rest => rfl
  | unended t => exact absurd rfl ended

end Field.Leads

namespace Read

theorem u8_eq_ok {bytes rest : Bytes} {v : UInt8} :
    u8 bytes = .ok (v, rest) ↔ bytes = v :: rest := by
  constructor
  · intro h
    cases bytes with
    | nil => cases h
    | cons a more =>
      cases h
      rfl
  · rintro rfl
    rfl

theorem map_eq_ok {α : Type} {read : Except Fault (α × Bytes)} {make : α → Field} {f : Field}
    {rest : Bytes} : (read.map fun (v, rest) => (make v, rest)) = .ok (f, rest) ↔
      ∃ v, f = make v ∧ read = .ok (v, rest) := by
  cases read with
  | error e => simp [Except.map]
  | ok r =>
    obtain ⟨v, more⟩ := r
    simp only [Except.map, Except.ok.injEq, Prod.mk.injEq]
    constructor
    · rintro ⟨rfl, rfl⟩
      exact ⟨v, rfl, rfl, rfl⟩
    · rintro ⟨_, rfl, rfl, rfl⟩
      exact ⟨rfl, rfl⟩

/-- What is read is a field of the shape asked for, whose bytes lead. -/
theorem leads_of_field {shape : Shape} {bytes rest : Bytes} {f : Field}
    (h : field shape bytes = .ok (f, rest)) :
    f.shape? = some shape ∧ f.fault? = none ∧ f.Leads bytes rest := by
  cases shape with
  | u8 =>
    obtain ⟨v, rfl, read⟩ := map_eq_ok.mp h
    rw [u8_eq_ok.mp read]
    exact ⟨rfl, rfl, .whole (.u8 v) rest⟩
  | u16 =>
    obtain ⟨v, rfl, read⟩ := map_eq_ok.mp h
    rw [u16_eq_ok.mp read]
    exact ⟨rfl, rfl, .whole (.u16 v) rest⟩
  | u32 =>
    obtain ⟨v, rfl, read⟩ := map_eq_ok.mp h
    rw [word_eq_ok.mp read]
    exact ⟨rfl, rfl, .whole (.u32 v) rest⟩
  | cell =>
    obtain ⟨v, rfl, read⟩ := map_eq_ok.mp h
    rw [cell_eq_ok.mp read]
    exact ⟨rfl, rfl, .whole (.cell v) rest⟩
  | float =>
    obtain ⟨v, rfl, read⟩ := map_eq_ok.mp h
    rw [word_eq_ok.mp read]
    exact ⟨rfl, rfl, .whole (.float v) rest⟩
  | text =>
    obtain ⟨t, rfl, read⟩ := map_eq_ok.mp h
    obtain ⟨free, laid⟩ := text_eq_ok.mp read
    refine ⟨rfl, by simpa [Field.fault?] using free, ?_⟩
    rcases laid with rfl | ⟨rfl, rfl⟩
    · have whole := Field.Leads.whole (.text t) rest
      rwa [Field.encode, List.append_assoc] at whole
    · exact .unended t

/-- A field without a fault is read where its bytes lead. -/
theorem field_of_leads {shape : Shape} {bytes rest : Bytes} {f : Field}
    (of : f.shape? = some shape) (clean : f.fault? = none) (leads : f.Leads bytes rest) :
    field shape bytes = .ok (f, rest) := by
  cases f with
  | raw bytes => cases of
  | u8 v =>
    cases of
    exact map_eq_ok.mpr ⟨v, rfl, u8_eq_ok.mpr (leads.eq (by simp [Field.shape?]))⟩
  | u16 v =>
    cases of
    exact map_eq_ok.mpr ⟨v, rfl, u16_eq_ok.mpr (leads.eq (by simp [Field.shape?]))⟩
  | u32 v =>
    cases of
    exact map_eq_ok.mpr ⟨v, rfl, word_eq_ok.mpr (leads.eq (by simp [Field.shape?]))⟩
  | cell v =>
    cases of
    exact map_eq_ok.mpr ⟨v, rfl, cell_eq_ok.mpr (leads.eq (by simp [Field.shape?]))⟩
  | float v =>
    cases of
    exact map_eq_ok.mpr ⟨v, rfl, word_eq_ok.mpr (leads.eq (by simp [Field.shape?]))⟩
  | text t =>
    cases of
    refine map_eq_ok.mpr ⟨t, rfl, ?_⟩
    cases leads with
    | whole _ rest => exact text_encode clean rest
    | unended _ => exact text_open (by simpa [Field.fault?] using clean)

end Read

namespace Reader

/-- A read succeeds exactly with the field that leads, and leaves what is behind it. -/
theorem take_eq_ok {shape : Shape} {r r' : Reader} {f : Field} : r.take shape = (.ok f, r') ↔
    f.shape? = some shape ∧ f.fault? = none ∧ f.Leads r.bytes r'.bytes := by
  unfold take
  constructor
  · intro h
    split at h
    · rename_i g rest read
      cases h
      exact Read.leads_of_field read
    · cases h
  · rintro ⟨of, clean, leads⟩
    rw [Read.field_of_leads of clean leads]

/-- Reads fields of the given shapes one after the other, whether or not those before could be read;
what came of each read, and the reader in the end. -/
def takeAll : List Shape → Reader → List (Except Fault Field) × Reader
  | [], r => ([], r)
  | shape :: shapes, r =>
    match r.take shape with
    | (found, r) => (found :: (takeAll shapes r).1, (takeAll shapes r).2)

/-- Fields without a fault are read one after the other from their bytes. -/
theorem takeAll_encode {fields : List Field} (shaped : ∀ f ∈ fields, f.shape?.isSome = true)
    (clean : ∀ f ∈ fields, f.fault? = none) (rest : Bytes) :
    takeAll (fields.filterMap Field.shape?) ⟨fields.flatMap Field.encode ++ rest⟩ =
      (fields.map .ok, ⟨rest⟩) := by
  induction fields with
  | nil => rfl
  | cons f fields ih =>
    obtain ⟨ofFirst, ofOthers⟩ := List.forall_mem_cons.mp shaped
    obtain ⟨cleanFirst, cleanOthers⟩ := List.forall_mem_cons.mp clean
    obtain ⟨shape, of⟩ := Option.isSome_iff_exists.mp ofFirst
    have first : Reader.take shape ⟨f.encode ++ (fields.flatMap Field.encode ++ rest)⟩ =
        (.ok f, ⟨fields.flatMap Field.encode ++ rest⟩) :=
      take_eq_ok.mpr ⟨of, cleanFirst, .whole f _⟩
    rw [List.filterMap_cons_some of, List.flatMap_cons, List.append_assoc, takeAll, first]
    dsimp only
    rw [ih ofOthers cleanOthers]
    rfl

end Reader

/-! ## Offers -/

/-- The field is a text with a NUL inside. -/
def Field.HoldsNul (f : Field) : Prop := ∃ t, f = .text t ∧ '\x00' ∈ t.toList

theorem Field.holdsNul_iff {f : Field} : f.HoldsNul ↔ f.fault? ≠ none := by
  cases f with
  | text t => simp [HoldsNul, fault?]
  | _ => simp [HoldsNul, fault?]

namespace Writer

/-- What is offered is taken and its bytes appended, or it is refused and nothing is left behind. -/
theorem offer_cases (f : Field) (w : Writer) :
    (w.offer f = (.ok (), { w with bytes := w.bytes ++ f.encode }) ∧ f.fault? = none ∧
        w.bytes.length + f.encode.length ≤ w.limit) ∨
      ∃ e, w.offer f = (.error e, w) ∧
        (f.fault? ≠ none ∨ w.limit < w.bytes.length + f.encode.length) := by
  cases fault : f.fault? with
  | some e => exact .inr ⟨e, by simp [offer, putAll, put, fault], .inl (by simp)⟩
  | none =>
    by_cases room : w.limit < w.bytes.length + f.encode.length
    · refine .inr ⟨.payloadTooLarge (w.bytes.length + f.encode.length) w.limit, ?_, .inr room⟩
      simp [offer, putAll, put, fault, room]
    · refine .inl ⟨?_, rfl, Nat.not_lt.mp room⟩
      simp [offer, putAll, put, fault, room]

/-- Exactly what would pass the limit is refused, and a text with a NUL inside. -/
theorem offer_error_iff (f : Field) (w : Writer) : (∃ e, (w.offer f).1 = .error e) ↔
    w.limit < w.length + f.encode.length ∨ f.HoldsNul := by
  rw [Field.holdsNul_iff]
  rcases offer_cases f w with ⟨taken, clean, room⟩ | ⟨e, refused, because⟩
  · have fits : ¬ w.limit < w.length + f.encode.length := Nat.not_lt.mpr room
    simp [taken, clean, fits]
  · have either : w.limit < w.length + f.encode.length ∨ f.fault? ≠ none := because.symm
    simp [refused, either]

theorem offer_error {f : Field} {w : Writer} {e : Fault} (h : (w.offer f).1 = .error e) :
    (w.offer f).2 = w := by
  rcases offer_cases f w with ⟨taken, -⟩ | ⟨e', refused, -⟩
  · rw [taken] at h
    cases h
  · rw [refused]

/-- Offers fields one after the other, whether or not those before were taken; the fields that were,
and the writer in the end. -/
def offerAll : List Field → Writer → List Field × Writer
  | [], w => ([], w)
  | f :: fields, w =>
    match w.offer f with
    | (.ok (), w) => (f :: (offerAll fields w).1, (offerAll fields w).2)
    | (.error _, w) => offerAll fields w

/-- The fields that were taken have no fault, and the writer ends with their bytes. -/
theorem offerAll_taken (fields : List Field) (w : Writer) :
    (w.offerAll fields).1.Sublist fields ∧ (∀ f ∈ (w.offerAll fields).1, f.fault? = none) ∧
      (w.offerAll fields).2 =
        { w with bytes := w.bytes ++ (w.offerAll fields).1.flatMap Field.encode } := by
  induction fields generalizing w with
  | nil => simp [offerAll]
  | cons f fields ih =>
    rcases offer_cases f w with ⟨taken, clean, -⟩ | ⟨e, refused, -⟩
    · obtain ⟨among, others, bytes⟩ := ih { w with bytes := w.bytes ++ f.encode }
      rw [offerAll, taken]
      refine ⟨among.cons_cons f, List.forall_mem_cons.mpr ⟨clean, others⟩, ?_⟩
      rw [bytes, List.flatMap_cons, List.append_assoc]
    · rw [offerAll, refused]
      obtain ⟨among, others, bytes⟩ := ih w
      exact ⟨among.cons f, others, bytes⟩

/-- At any time a writer refuses exactly what would pass its limit and a text with a NUL inside, and
is left as it was. After any offers it has the bytes that it began with and those of the fields that
it took, and from these bytes the same fields are read, and nothing is left. A reader is left as it
was by a read that fails, and one that succeeds takes away a front of its bytes. -/
theorem offered_read (fields : List Field) (shaped : ∀ f ∈ fields, f.shape?.isSome = true)
    (w : Writer) :
    (∀ (f : Field) (v : Writer), ((∃ e, (v.offer f).1 = .error e) ↔
        v.limit < v.length + f.encode.length ∨ f.HoldsNul) ∧
      ∀ e, (v.offer f).1 = .error e → (v.offer f).2 = v) ∧
    (w.offerAll fields).2 =
      { w with bytes := w.bytes ++ (w.offerAll fields).1.flatMap Field.encode } ∧
    Reader.takeAll ((w.offerAll fields).1.filterMap Field.shape?)
        ⟨(w.offerAll fields).1.flatMap Field.encode⟩ = ((w.offerAll fields).1.map .ok, ⟨[]⟩) ∧
    ∀ (shape : Shape) (r r' : Reader),
      (∀ e, r.take shape = (.error e, r') → r' = r) ∧
      ∀ f, r.take shape = (.ok f, r') →
        f.shape? = some shape ∧ ∃ front, r.bytes = front ++ r'.bytes := by
  obtain ⟨among, clean, bytes⟩ := offerAll_taken fields w
  refine ⟨fun f v => ⟨offer_error_iff f v, fun e => offer_error⟩, bytes, ?_, ?_⟩
  · have read := Reader.takeAll_encode (fun f mem => shaped f (among.subset mem)) clean []
    rwa [List.append_nil] at read
  · intro shape r r'
    refine ⟨fun e => Reader.take_error, ?_⟩
    intro f read
    obtain ⟨of, -, leads⟩ := Reader.take_eq_ok.mp read
    exact ⟨of, leads.front⟩

/-- A text with a NUL, and for a writer with room for fifteen bytes too much. -/
def crowd : List Field :=
  [.u8 1, .text "a\x00b", .u16 513, .text "hi", .u32 5, .cell (-1), .float 2143289345, .u8 7, .u8 8]

/-- The text, the number and the last byte are refused; what comes between them is not. -/
theorem offered_read_crowd :
    (∀ f ∈ crowd, f.shape?.isSome = true) ∧
      (offerAll crowd ⟨[9], 16⟩).2.bytes =
        [9, 1, 1, 2, 104, 105, 0, 5, 0, 0, 0, 255, 255, 255, 255, 7] ∧
      Reader.takeAll [.u8, .u16, .text, .u32, .cell, .u8]
          ⟨[1, 1, 2, 104, 105, 0, 5, 0, 0, 0, 255, 255, 255, 255, 7]⟩ =
        ([.ok (.u8 1), .ok (.u16 513), .ok (.text "hi"), .ok (.u32 5), .ok (.cell (-1)),
          .ok (.u8 7)], ⟨[]⟩) := by
  have shaped : ∀ f ∈ crowd, f.shape?.isSome = true := by decide
  have taken : (offerAll crowd ⟨[9], 16⟩).1 =
      [.u8 1, .u16 513, .text "hi", .u32 5, .cell (-1), .u8 7] := by decide +kernel
  obtain ⟨-, bytes, read, -⟩ := offered_read crowd shaped ⟨[9], 16⟩
  rw [taken] at bytes read
  refine ⟨shaped, ?_, read⟩
  rw [bytes]
  rfl

end Writer

end HostLink.Cell
