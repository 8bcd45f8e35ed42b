import HostLink.Proofs.Callback.Fields
import HostLink.Proofs.Cell.RoundTrip

/-!
# HostLink.Proofs.Callback.RoundTrip

What the host calls is what the runtime sees. A call that was written under a registered signature
is read back by that signature: the same caller, the same name and the same parameters, except that
values of every kind come back as whole numbers (`Param.asRead`).

The count in front of an array is a word, and an array could be longer than words go. That the
count is right rests on the registration: the array's length is declared by a value, which is a
cell, and writing has compared the two.
-/

namespace HostLink.Callback

open Cell (Field Writer)

/-- A parameter as the runtime reads it. -/
def Param.asRead : Param → Param
  | .int v => .int v
  | .float bits => .int bits.toInt32
  | .bool b => .int (if b then 1 else 0)
  | .text t => .text t
  | .array cells => .array cells

theorem asRead_of_cell {p : Param} {v : Int32} (h : p.cell? = some v) : p.asRead = .int v := by
  cases p with
  | int _ => cases h; rfl
  | float _ => cases h; rfl
  | bool _ => cases h; rfl
  | text _ => cases h
  | array _ => cases h

theorem lengthCell_lt {n : Nat} (h : lengthCell? n ≠ none) : n < 2147483648 := by
  refine Nat.lt_of_not_le fun long => h ?_
  exact if_neg (by omega)

/-! ## Arrays -/

theorem length_cells (cells : List Int32) :
    ((cells.map Field.cell).flatMap Field.encode).length = 4 * cells.length := by
  induction cells with
  | nil => rfl
  | cons v cells ih =>
    have one : (Field.cell v).encode.length = 4 := rfl
    simp only [List.map_cons, List.flatMap_cons, List.length_append, List.length_cons, ih, one]
    omega

theorem decodeCells_encode (cells : List Int32) (rest : Bytes) :
    decodeCells cells.length ((cells.map Field.cell).flatMap Field.encode ++ rest) =
      .ok (cells, rest) := by
  induction cells with
  | nil => rfl
  | cons v cells ih =>
    rw [List.map_cons, List.flatMap_cons, List.append_assoc, List.length_cons, decodeCells,
      Cell.Read.cell_encode]
    dsimp only
    rw [ih]

theorem decodeParam_array (index : UInt32) {cells : List Int32} (short : cells.length < 4294967296)
    (rest : Bytes) : decodeParam (.array index) ((Field.u32 (UInt32.ofNat cells.length)).encode ++
      ((cells.map Field.cell).flatMap Field.encode ++ rest)) = .ok (.array cells, rest) := by
  have count : (UInt32.ofNat cells.length).toNat = cells.length := by
    rw [UInt32.toNat_ofNat']
    omega
  have room :
      ¬ ((cells.map Field.cell).flatMap Field.encode ++ rest).length / 4 < cells.length := by
    rw [List.length_append, length_cells]
    omega
  rw [decodeParam, Cell.Read.u32_encode]
  dsimp only
  rw [count, if_neg room, decodeCells_encode]

/-! ## Parameters -/

theorem Carried.decode {params : List Param} {kind : Kind} {p : Param} {fields : List Field}
    (h : Carried params kind p fields) (clean : ∀ f ∈ fields, f.fault? = none)
    (declared : ∀ index, kind = .array index → declaredLength? params index ≠ none)
    (rest : Bytes) :
    decodeParam kind (fields.flatMap Field.encode ++ rest) = .ok (p.asRead, rest) := by
  cases h with
  | value fits =>
    rw [List.flatMap_singleton, decodeParam, Cell.Read.cell_encode, asRead_of_cell fits]
  | text t =>
    rw [List.flatMap_singleton, decodeParam, Cell.Read.text_encode (clean _ List.mem_cons_self)]
    rfl
  | @array index cells agrees =>
    have short : cells.length < 2147483648 := lengthCell_lt (agrees ▸ declared index rfl)
    rw [List.flatMap_cons, List.append_assoc]
    exact decodeParam_array index (by omega) rest

theorem Carries.decode {params : List Param} {signature : Signature} {ps : List Param}
    {fields : List Field} (h : Carries params signature ps fields)
    (clean : ∀ f ∈ fields, f.fault? = none)
    (declared : ∀ index, .array index ∈ signature → declaredLength? params index ≠ none)
    (rest : Bytes) : decodeParams signature (fields.flatMap Field.encode ++ rest) =
      .ok (ps.map Param.asRead, rest) := by
  induction h with
  | nil => rfl
  | cons first others ih =>
    rw [List.forall_mem_append] at clean
    have here := first.decode clean.1 fun index eq => declared index (by simp [eq])
    have there := ih clean.2 fun index mem => declared index (List.mem_cons_of_mem _ mem)
    rw [List.flatMap_append, List.append_assoc, decodeParams, here]
    dsimp only
    rw [there]
    rfl

/-! ## Calls -/

/-- The fields of the caller, if it is wanted. -/
def callerFields : Option UInt16 → List Field
  | some c => [.u16 c]
  | none => []

theorem decodeCaller_encode (caller : Option UInt16) (rest : Bytes) :
    decodeCaller caller.isSome ((callerFields caller).flatMap Field.encode ++ rest) =
      .ok (caller, rest) := by
  cases caller with
  | none => rfl
  | some c =>
    rw [callerFields, List.flatMap_singleton, decodeCaller, Option.isSome_some, if_pos rfl,
      Cell.Read.u16_encode]

theorem callFields_eq_ok {caller : Option UInt16} {name : String} {signature : Signature}
    {params : List Param} {fields : List Field}
    (h : callFields caller name signature params = fields.map .ok)
    (count : params.length = signature.length) :
    ∃ more, fields = callerFields caller ++ .text name :: more ∧
      Carries params signature params more := by
  obtain ⟨front, others, rfl, called, rest⟩ := List.map_eq_append_iff.mp h.symm
  obtain ⟨first, more, rfl, named, written⟩ := List.map_eq_cons_iff.mp rest
  cases named
  refine ⟨more, ?_, paramsFields_eq_ok written.symm count⟩
  have same : callerFields caller = front := by
    cases caller <;> exact map_ok_inj called.symm
  rw [same]

/-- A call that was written has gone out in fields without a fault. -/
theorem writeCall_eq_ok {t : Table} {caller : Option UInt16} {name : String} {params : List Param}
    {w w' : Writer} (h : t.writeCall caller name params w = (.ok true, w')) :
    ∃ (signature : Signature) (fields : List Field),
      t.get? name = some signature ∧ params.length = signature.length ∧
      callFields caller name signature params = fields.map .ok ∧
      (∀ f ∈ fields, f.fault? = none) ∧ w'.bytes = w.bytes ++ fields.flatMap Field.encode := by
  unfold Table.writeCall at h
  split at h
  · cases h
  · rename_i signature registered
    split at h
    · cases h
    · split at h
      · cases h
      · rename_i count
        split at h
        · rename_i v written
          cases h
          obtain ⟨fields, eq, clean, bytes⟩ := Cell.Writer.putAll_eq_ok written
          exact ⟨signature, fields, registered, Decidable.not_not.mp count, eq, clean, bytes⟩
        · cases h

/-- The fields of a call are read back, each parameter as the runtime reads it. -/
theorem decodeCall_fields {caller : Option UInt16} {name : String} {signature : Signature}
    {params : List Param} {more : List Field} (carries : Carries params signature params more)
    (measured : Measured signature)
    (clean : ∀ f ∈ callerFields caller ++ .text name :: more, f.fault? = none) :
    decodeCall signature caller.isSome
        ((callerFields caller ++ .text name :: more).flatMap Field.encode) =
      .ok ⟨caller, name, params.map Param.asRead⟩ := by
  have rest := carries.decode (fun f mem => clean f (by simp [mem]))
    (fun index mem => carries.declared measured mem) []
  have named : (Field.text name).fault? = none := clean _ (by simp)
  rw [decodeCall, List.flatMap_append, decodeCaller_encode]
  dsimp only
  rw [List.flatMap_cons, Cell.Read.text_encode named]
  dsimp only
  rw [← List.append_nil (more.flatMap Field.encode), rest]

/-- Whatever was registered, a call that could be written is read back under the signature of its
name: the same caller, the same name, the same parameters. -/
theorem decodeCall_writeCall {records : List Bytes} {caller : Option UInt16} {name : String}
    {params : List Param} {limit : Nat} {w : Writer}
    (written : (Table.ofRecords records).writeCall caller name params (.empty limit) =
      (.ok true, w)) :
    ∃ signature, (Table.ofRecords records).get? name = some signature ∧
      decodeCall signature caller.isSome w.bytes =
        .ok ⟨caller, name, params.map Param.asRead⟩ := by
  obtain ⟨signature, fields, registered, count, eq, clean, bytes⟩ := writeCall_eq_ok written
  obtain ⟨more, rfl, carries⟩ := callFields_eq_ok eq count
  refine ⟨signature, registered, ?_⟩
  rw [bytes, Writer.empty, List.nil_append]
  exact decodeCall_fields carries (Table.measured_ofRecords registered) clean

/-- The record of `OnHit`: two values, an array as long as the first says, a text. -/
def hitRecord : Bytes := [79, 110, 72, 105, 116, 0, 1, 1, 2, 0, 0, 0, 0, 4]

def hitParams : List Param := [.int 2, .bool true, .array [10, -1], .text "né"]

/-- The call that was written comes back with its boolean as a number. -/
theorem decodeCall_hit : ∃ signature w,
    (Table.ofRecords [hitRecord]).writeCall (some 9) "OnHit" hitParams (.empty 64) =
      (.ok true, w) ∧
    decodeCall signature true w.bytes =
      .ok ⟨some 9, "OnHit", [.int 2, .int 1, .array [10, -1], .text "né"]⟩ := by
  let outcome := (Table.ofRecords [hitRecord]).writeCall (some 9) "OnHit" hitParams (.empty 64)
  have written : outcome = (.ok true, outcome.2) := rfl
  obtain ⟨signature, -, decoded⟩ := decodeCall_writeCall written
  exact ⟨signature, outcome.2, written, decoded⟩

end HostLink.Callback
