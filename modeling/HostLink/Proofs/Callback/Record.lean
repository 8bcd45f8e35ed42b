import HostLink.Callback.Table
import HostLink.Proofs.Cell.RoundTrip
import Mathlib.Data.List.Induction

/-!
# HostLink.Proofs.Callback.Record

What may be registered. A record is the name of a callback and either ends there or goes on with a
NUL and a descriptor for each parameter; no more than 32 parameters are allowed, and every array
names a value among them as its length. `IsRecord` says so of the bytes, without reading them.

* `readRecord_eq_ok` — a record is read as what it says, and nothing else is read.
* `register_iff_isRecord` — exactly the records are entered, each under its own name.
* `Table.isRecord_of_get?` — whatever a table filled by records holds was such a record.
-/

namespace HostLink.Callback

/-- The descriptor of a parameter. -/
def Kind.encode : Kind → Bytes
  | .value => [0x01]
  | .array lengthParam => 0x02 :: Bytes.ofU32 lengthParam
  | .text => [0x04]

/-- Every array names a value of the signature as its length. -/
def Measured (signature : Signature) : Prop :=
  ∀ index, .array index ∈ signature → signature[index.toNat]? = some .value

/-- The bytes are a record of this name and signature. -/
structure IsRecord (record : Bytes) (name : String) (signature : Signature) : Prop where
  named : name ≠ ""
  free : '\x00' ∉ name.toList
  laid : record = Utf8.encode name ++ 0 :: signature.flatMap Kind.encode ∨
    record = Utf8.encode name ∧ signature = []
  short : signature.length ≤ maxParams
  measured : Measured signature

/-! ## Reading a record -/

theorem readKind_eq_ok {name : String} {b : UInt8} {rest rest' : Bytes} {kind : Kind} :
    readKind name b rest = .ok (kind, rest') ↔ b :: rest = kind.encode ++ rest' := by
  constructor
  · intro h
    unfold readKind at h
    split at h
    · rename_i value
      cases h
      rw [value]
      rfl
    · split at h
      · rename_i array
        split at h
        · rename_i index _ read
          cases h
          rw [array, Cell.Read.word_eq_ok.mp read]
          rfl
        · cases h
      · split at h
        · rename_i text
          cases h
          rw [text]
          rfl
        · cases h
  · intro h
    cases kind with
    | value =>
      cases h
      rfl
    | array index =>
      rw [Kind.encode, List.cons_append] at h
      obtain ⟨rfl, rfl⟩ := List.cons.inj h
      have read : Cell.Read.u32 (Bytes.ofU32 index ++ rest') = .ok (index, rest') :=
        Cell.Read.word_eq_ok.mpr rfl
      rw [readKind, if_neg (by decide), if_pos rfl, read]
    | text =>
      cases h
      rfl

/-- A descriptor is not empty. -/
theorem Kind.encode_ne_nil (kind : Kind) : kind.encode ≠ [] := by
  cases kind <;> exact List.cons_ne_nil _ _

theorem descriptors_eq_nil {signature : Signature} :
    signature.flatMap Kind.encode = [] ↔ signature = [] := by
  cases signature with
  | nil => simp
  | cons kind kinds => simp [Kind.encode_ne_nil]

theorem readKinds_nil {name : String} {room : Nat} {signature : Signature} :
    readKinds name room [] = .ok signature ↔
      [] = signature.flatMap Kind.encode ∧ signature.length ≤ room := by
  rw [readKinds.eq_1, Except.ok.injEq, eq_comm, eq_comm (a := []), descriptors_eq_nil]
  exact ⟨fun none => ⟨none, by simp [none]⟩, And.left⟩

theorem readKinds_eq_ok {name : String} {room : Nat} {bytes : Bytes} {signature : Signature} :
    readKinds name room bytes = .ok signature ↔
      bytes = signature.flatMap Kind.encode ∧ signature.length ≤ room := by
  induction room generalizing bytes signature with
  | zero =>
    cases bytes with
    | nil => exact readKinds_nil
    | cons b rest =>
      simp only [readKinds, reduceCtorEq, Nat.le_zero, List.length_eq_zero_iff, false_iff]
      rintro ⟨laid, rfl⟩
      cases laid
  | succ room ih =>
    cases bytes with
    | nil => exact readKinds_nil
    | cons b rest =>
      rw [readKinds]
      constructor
      · intro h
        split at h
        · cases h
        · rename_i kind rest' first
          split at h
          · cases h
          · rename_i kinds others
            cases h
            obtain ⟨rfl, short⟩ := ih.mp others
            exact ⟨readKind_eq_ok.mp first, Nat.succ_le_succ short⟩
      · rintro ⟨laid, short⟩
        cases signature with
        | nil => cases laid
        | cons kind kinds =>
          rw [List.flatMap_cons] at laid
          rw [readKind_eq_ok.mpr laid]
          dsimp only
          rw [ih.mpr ⟨rfl, Nat.le_of_succ_le_succ short⟩]

theorem badLength_eq_none {signature : Signature} :
    signature.findSome? (badLength? signature) = none ↔ Measured signature := by
  rw [List.findSome?_eq_none_iff]
  constructor
  · intro good index mem
    have here : (if signature[index.toNat]? = some .value then none else some index) = none :=
      good _ mem
    by_cases value : signature[index.toNat]? = some .value
    · exact value
    · rw [if_neg value] at here
      cases here
  · intro measured kind mem
    cases kind with
    | array index => exact if_pos (measured index mem)
    | value => rfl
    | text => rfl

/-- A record is read as what it says, and nothing else is read. -/
theorem readRecord_eq_ok {record : Bytes} {name : String} {signature : Signature} :
    readRecord record = .ok (name, signature) ↔ IsRecord record name signature := by
  constructor
  · intro h
    unfold readRecord at h
    split at h
    · cases h
    · rename_i name' rest read
      obtain ⟨free, laid⟩ := Cell.Read.text_eq_ok.mp read
      split at h
      · cases h
      · rename_i named
        split at h
        · cases h
        · rename_i signature' kinds
          obtain ⟨rfl, short⟩ := readKinds_eq_ok.mp kinds
          split at h
          · cases h
          · rename_i good
            cases h
            have bare (h : record = Utf8.encode name ∧ signature.flatMap Kind.encode = []) :
                record = Utf8.encode name ∧ signature = [] := h.imp_right descriptors_eq_nil.mp
            exact ⟨named, free, laid.imp_right bare, short, badLength_eq_none.mp good⟩
  · intro h
    have bare (h : record = Utf8.encode name ∧ signature = []) :
        record = Utf8.encode name ∧ signature.flatMap Kind.encode = [] :=
      h.imp_right descriptors_eq_nil.mpr
    have read : Cell.Read.text record = .ok (name, signature.flatMap Kind.encode) :=
      Cell.Read.text_eq_ok.mpr ⟨h.free, h.laid.imp_right bare⟩
    rw [readRecord, read]
    dsimp only
    rw [if_neg h.named, readKinds_eq_ok.mpr ⟨rfl, h.short⟩]
    dsimp only
    rw [badLength_eq_none.mpr h.measured]

/-- A record says one thing. -/
theorem IsRecord.unique {record : Bytes} {name name' : String} {signature signature' : Signature}
    (h : IsRecord record name signature) (h' : IsRecord record name' signature') :
    name = name' ∧ signature = signature' := by
  have same := (readRecord_eq_ok.mpr h).symm.trans (readRecord_eq_ok.mpr h')
  cases same
  exact ⟨rfl, rfl⟩

/-! ## Tables -/

namespace Table

/-- Enters a record, unless it is bad. -/
def enter (t : Table) (record : Bytes) : Table :=
  match t.register record with
  | .ok (_, t') => t'
  | .error _ => t

/-- The table when these records have been entered in turn. -/
def ofRecords (records : List Bytes) : Table :=
  records.foldl enter .empty

theorem register_eq_ok {t t' : Table} {record : Bytes} {name : String} :
    t.register record = .ok (name, t') ↔
      ∃ signature, IsRecord record name signature ∧ t' = t.insert name signature := by
  constructor
  · intro h
    unfold register at h
    split at h
    · rename_i name' signature read
      cases h
      exact ⟨signature, readRecord_eq_ok.mp read, rfl⟩
    · cases h
  · rintro ⟨signature, record, rfl⟩
    rw [register, readRecord_eq_ok.mpr record]

/-- The signature under a name is that of a record just entered, or was there before. -/
theorem get?_enter {t : Table} {record : Bytes} {name : String} {signature : Signature}
    (h : (t.enter record).get? name = some signature) :
    IsRecord record name signature ∨ t.get? name = some signature := by
  unfold enter at h
  split at h
  · rename_i entered t' registered
    obtain ⟨signature', record, rfl⟩ := register_eq_ok.mp registered
    rw [get?_insert] at h
    split at h
    · rename_i same
      cases h
      exact .inl (same ▸ record)
    · exact .inr h
  · exact .inr h

/-- Whatever the table holds, one of the records says. -/
theorem isRecord_of_get? {records : List Bytes} {name : String} {signature : Signature}
    (h : (ofRecords records).get? name = some signature) :
    ∃ record ∈ records, IsRecord record name signature := by
  induction records using List.reverseRecOn with
  | nil => cases h
  | append_singleton records record ih =>
    rw [ofRecords, List.foldl_append] at h
    rcases get?_enter h with here | before
    · exact ⟨record, by simp, here⟩
    · obtain ⟨earlier, mem, said⟩ := ih before
      exact ⟨earlier, by simp [mem], said⟩

theorem measured_ofRecords {records : List Bytes} {name : String} {signature : Signature}
    (h : (ofRecords records).get? name = some signature) : Measured signature := by
  obtain ⟨record, -, said⟩ := isRecord_of_get? h
  exact said.measured

/-- Exactly the records are entered, each under its own name and as its own signature; no other
entry changes, and none at all when the bytes are no record. -/
theorem register_iff_isRecord (t : Table) (record : Bytes) :
    ((∃ name t', t.register record = .ok (name, t')) ↔
      ∃ name signature, IsRecord record name signature) ∧
    (∀ name t', t.register record = .ok (name, t') →
      t.enter record = t' ∧ ∃ signature, IsRecord record name signature ∧
        t'.get? name = some signature ∧
        ∀ other, other ≠ name → t'.get? other = t.get? other) ∧
    ∀ e, t.register record = .error e → t.enter record = t := by
  refine ⟨⟨?_, ?_⟩, ?_, ?_⟩
  · rintro ⟨name, t', registered⟩
    obtain ⟨signature, said, -⟩ := register_eq_ok.mp registered
    exact ⟨name, signature, said⟩
  · rintro ⟨name, signature, said⟩
    exact ⟨name, _, register_eq_ok.mpr ⟨signature, said, rfl⟩⟩
  · intro name t' registered
    have after : t.enter record = t' := by rw [enter, registered]
    obtain ⟨signature, said, rfl⟩ := register_eq_ok.mp registered
    refine ⟨after, signature, said, ?_, fun other different => ?_⟩
    · rw [get?_insert, if_pos rfl]
    · rw [get?_insert, if_neg different]
  · intro e refused
    rw [enter, refused]

/-- The record of `A`: an array whose length is the value behind it. -/
def forwardRecord : Bytes := [65, 0, 2, 1, 0, 0, 0, 1]

/-- The same with one more descriptor, an array whose length would be itself. -/
def circularRecord : Bytes := forwardRecord ++ [2, 2, 0, 0, 0]

/-- The first is entered over an older entry, the second changes nothing. -/
theorem register_iff_forward : (∃ t', (ofRecords [[65]]).register forwardRecord = .ok ("A", t') ∧
      IsRecord forwardRecord "A" [.array 1, .value] ∧ t'.get? "A" = some [.array 1, .value]) ∧
    (ofRecords [[65]]).enter circularRecord = ofRecords [[65]] ∧
    ¬ ∃ name signature, IsRecord circularRecord name signature := by
  obtain ⟨-, accepted, -⟩ := register_iff_isRecord (ofRecords [[65]]) forwardRecord
  obtain ⟨exactly, -, refused⟩ := register_iff_isRecord (ofRecords [[65]]) circularRecord
  have entered : (ofRecords [[65]]).register forwardRecord =
      .ok ("A", ⟨[("A", [.array 1, .value])], by simp⟩) := rfl
  have bad : (ofRecords [[65]]).register circularRecord =
      .error (.signatureMismatch "A" (.lengthNotValue 2)) := rfl
  obtain ⟨-, signature, said, found, -⟩ := accepted _ _ entered
  cases found
  refine ⟨⟨_, entered, said, rfl⟩, refused _ bad, fun record => ?_⟩
  obtain ⟨name, t', good⟩ := exactly.mpr record
  rw [bad] at good
  cases good

end Table

end HostLink.Callback
