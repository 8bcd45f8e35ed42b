import HostLink.Proofs.Callback.RoundTrip
import HostLink.Proofs.Payload
import Mathlib.Data.List.Forall2

/-!
# HostLink.Proofs.Callback.Encoding

How a call looks in bytes, and which calls can be written. The bytes of a call (`callBytes`) are
those of its fields in order: the caller if it is wanted, the name, the parameters. A call fits a
signature when its parameters are of the declared kinds, no text has a NUL inside and every array is
as long as the value that the signature names says (`Fits`).

Writing checks one parameter at a time, and against the limit at every field. All of that together
comes to this: under a signature that was registered, a call is written exactly if it fits and its
bytes do (`writeCall_iff_fits`).
-/

namespace HostLink.Callback

open Cell (Field Writer)

/-- The bytes of a parameter. -/
def Param.encode : Param → Bytes
  | .int v => Bytes.ofU32 v.toUInt32
  | .float bits => Bytes.ofU32 bits
  | .bool b => Bytes.ofU32 (if b then 1 else 0)
  | .text t => Utf8.encode t ++ [0]
  | .array cells =>
    Bytes.ofU32 (UInt32.ofNat cells.length) ++ cells.flatMap fun v => Bytes.ofU32 v.toUInt32

/-- The bytes of a call: the caller if it is wanted, the name and the parameters. -/
def callBytes (caller : Option UInt16) (name : String) (params : List Param) : Bytes :=
  (caller.map Bytes.ofU16).getD [] ++ (Param.text name :: params).flatMap Param.encode

/-- The parameter is of the kind. -/
inductive Kind.Takes : Kind → Param → Prop where
  | value {p : Param} {v : Int32} (h : p.cell? = some v) : Takes .value p
  | text (t : String) : Takes .text (.text t)
  | array (index : UInt32) (cells : List Int32) : Takes (.array index) (.array cells)

/-- The parameters fit a signature. -/
structure Fits (signature : Signature) (params : List Param) : Prop where
  kinds : List.Forall₂ Kind.Takes signature params
  free : ∀ t, .text t ∈ params → '\x00' ∉ t.toList
  /-- An array is as long as the value says that its kind names. -/
  counted : ∀ (i : Nat) index cells, signature[i]? = some (.array index) →
    params[i]? = some (.array cells) → ∃ p v, params[index.toNat]? = some p ∧
      p.cell? = some v ∧ v.toInt = cells.length

/-! ## Lengths -/

theorem lengthCell_eq_some {n : Nat} {v : Int32} : lengthCell? n = some v ↔ v.toInt = n := by
  constructor
  · intro h
    have short : n < 2147483648 := lengthCell_lt (h ▸ Option.some_ne_none v)
    rw [lengthCell?, if_pos short] at h
    cases h
    exact Int32.toInt_ofNat_of_lt short
  · intro h
    have short : n < 2147483648 := by
      have := v.toInt_lt
      omega
    rw [lengthCell?, if_pos short, Option.some.injEq, ← Int32.toInt_inj, h]
    exact Int32.toInt_ofNat_of_lt short

theorem declaredLength_eq_some {params : List Param} {index : UInt32} {v : Int32} :
    declaredLength? params index = some v ↔
      ∃ p, params[index.toNat]? = some p ∧ p.cell? = some v := by
  unfold declaredLength?
  cases params[index.toNat]? with
  | none => simp
  | some p => simp

/-! ## Fields and bytes -/

theorem Param.encode_of_cell {p : Param} {v : Int32} (h : p.cell? = some v) :
    p.encode = Bytes.ofU32 v.toUInt32 := by
  cases p with
  | int _ => cases h; rfl
  | float bits => cases h; simp [encode]
  | bool b => cases h; cases b <;> rfl
  | text _ => cases h
  | array _ => cases h

namespace Carried

variable {params : List Param} {kind : Kind} {p : Param} {fields : List Field}

theorem takes (h : Carried params kind p fields) : kind.Takes p := by
  cases h with
  | value fits => exact .value fits
  | text t => exact .text t
  | array => exact .array _ _

theorem encode (h : Carried params kind p fields) :
    fields.flatMap Field.encode = p.encode := by
  cases h with
  | value fits => rw [Param.encode_of_cell fits, List.flatMap_singleton]; rfl
  | text t => rw [List.flatMap_singleton]; rfl
  | array agrees => rw [List.flatMap_cons, List.flatMap_map]; rfl

theorem clean (h : Carried params kind p fields) :
    (∀ f ∈ fields, f.fault? = none) ↔ ∀ t, p = .text t → '\x00' ∉ t.toList := by
  cases h with
  | @value p v fits =>
    have no (t : String) : p ≠ .text t := by
      rintro rfl
      cases fits
    simp [Field.fault?, no]
  | text t => simp [Field.fault?]
  | array agrees => simp [Field.fault?]

end Carried

namespace Carries

variable {params : List Param} {signature : Signature} {ps : List Param} {fields : List Field}

theorem takes (h : Carries params signature ps fields) :
    List.Forall₂ Kind.Takes signature ps := by
  induction h with
  | nil => exact .nil
  | cons first others ih => exact .cons first.takes ih

theorem encode (h : Carries params signature ps fields) :
    fields.flatMap Field.encode = ps.flatMap Param.encode := by
  induction h with
  | nil => rfl
  | cons first others ih => rw [List.flatMap_append, List.flatMap_cons, first.encode, ih]

theorem clean (h : Carries params signature ps fields) :
    (∀ f ∈ fields, f.fault? = none) ↔ ∀ t, .text t ∈ ps → '\x00' ∉ t.toList := by
  induction h with
  | nil => simp
  | cons first others ih =>
    rw [List.forall_mem_append, first.clean, ih]
    simp only [List.mem_cons]
    constructor
    · rintro ⟨here, there⟩ t (same | mem)
      · exact here t same.symm
      · exact there t mem
    · intro all
      exact ⟨fun t same => all t (.inl same.symm), fun t mem => all t (.inr mem)⟩

/-- Under a measured signature, parameters that are carried by clean fields fit it. -/
theorem fits (h : Carries ps signature ps fields) (measured : Measured signature)
    (clean : ∀ f ∈ fields, f.fault? = none) : Fits signature ps where
  kinds := h.takes
  free := h.clean.mp clean
  counted i index cells kind param := by
    obtain ⟨p, here, there, carried⟩ := h.carried kind
    rw [param] at there
    cases there
    cases carried with
    | array agrees =>
      obtain ⟨v, eq⟩ := Option.ne_none_iff_exists'.mp
        (h.declared measured (List.mem_of_getElem? kind))
      obtain ⟨q, found, cell⟩ := declaredLength_eq_some.mp eq
      exact ⟨q, v, found, cell, lengthCell_eq_some.mp (agrees ▸ eq)⟩

end Carries

theorem exists_carried {params : List Param} {kind : Kind} {p : Param} (takes : kind.Takes p)
    (counted : ∀ index cells, kind = .array index → p = .array cells →
      declaredLength? params index = lengthCell? cells.length) :
    ∃ fields, Carried params kind p fields := by
  cases takes with
  | value fits => exact ⟨_, .value fits⟩
  | text t => exact ⟨_, .text t⟩
  | array index cells => exact ⟨_, .array (counted index cells rfl rfl)⟩

theorem exists_carries {params : List Param} {signature : Signature} {ps : List Param}
    (takes : List.Forall₂ Kind.Takes signature ps)
    (counted : ∀ (i : Nat) index cells, signature[i]? = some (.array index) →
      ps[i]? = some (.array cells) →
      declaredLength? params index = lengthCell? cells.length) :
    ∃ fields, Carries params signature ps fields := by
  induction takes with
  | nil => exact ⟨[], .nil⟩
  | cons first others ih =>
    obtain ⟨fields, here⟩ := exists_carried first fun index cells kind param =>
      counted 0 index cells (congrArg some kind) (congrArg some param)
    obtain ⟨more, there⟩ := ih fun i => counted (i + 1)
    exact ⟨fields ++ more, .cons here there⟩

/-- Parameters that fit are carried by clean fields. -/
theorem Fits.carries {signature : Signature} {params : List Param} (h : Fits signature params) :
    ∃ fields, Carries params signature params fields ∧ ∀ f ∈ fields, f.fault? = none := by
  obtain ⟨fields, carries⟩ := exists_carries h.kinds fun i index cells kind param => by
    obtain ⟨p, v, found, cell, long⟩ := h.counted i index cells kind param
    rw [declaredLength_eq_some.mpr ⟨p, found, cell⟩, lengthCell_eq_some.mpr long]
  exact ⟨fields, carries, carries.clean.mpr h.free⟩

theorem takes_value_iff {kind : Kind} {p : Param} {v : Int32} (fits : p.cell? = some v) :
    kind.Takes p ↔ kind = .value := by
  constructor
  · intro h
    cases h with
    | value => rfl
    | text => cases fits
    | array => cases fits
  · rintro rfl
    exact .value fits

theorem takes_values_iff {signature : Signature} {params : List Param}
    (cells : ∀ p ∈ params, ∃ v, p.cell? = some v) :
    List.Forall₂ Kind.Takes signature params ↔
      signature = List.replicate params.length .value := by
  induction params generalizing signature with
  | nil => simp
  | cons p ps ih =>
    obtain ⟨v, fits⟩ := cells p (by simp)
    cases signature with
    | nil => simp [List.replicate_succ]
    | cons kind kinds =>
      rw [List.forall₂_cons, takes_value_iff fits, ih fun p mem => cells p (by simp [mem])]
      simp [List.replicate_succ]

/-- Parameters that are cells fit a signature of values, and no other. -/
theorem fits_values_iff {signature : Signature} {params : List Param}
    (cells : ∀ p ∈ params, ∃ v, p.cell? = some v) :
    Fits signature params ↔ signature = List.replicate params.length .value := by
  refine ⟨fun fits => (takes_values_iff cells).mp fits.kinds, ?_⟩
  rintro rfl
  refine ⟨(takes_values_iff cells).mpr rfl, fun t mem => ?_, fun i index array kind => ?_⟩
  · obtain ⟨v, fits⟩ := cells _ mem
    cases fits
  · cases List.eq_of_mem_replicate (List.mem_of_getElem? kind)

/-! ## Calls -/

theorem callFields_of_carries {caller : Option UInt16} {name : String} {signature : Signature}
    {params : List Param} {more : List Field} (h : Carries params signature params more) :
    callFields caller name signature params =
      (callerFields caller ++ .text name :: more).map .ok := by
  have params := h.paramsFields name 0
  cases caller <;> simp [callFields, callerFields, params]

theorem callBytes_of_carries {caller : Option UInt16} {name : String} {signature : Signature}
    {params : List Param} {more : List Field} (h : Carries params signature params more) :
    (callerFields caller ++ .text name :: more).flatMap Field.encode =
      callBytes caller name params := by
  have front : (callerFields caller).flatMap Field.encode = (caller.map Bytes.ofU16).getD [] := by
    cases caller <;> simp [callerFields, Field.encode]
  rw [List.flatMap_append, List.flatMap_cons, h.encode, front]
  rfl

theorem clean_call {name : String} {more : List Field} (caller : Option UInt16)
    (free : '\x00' ∉ name.toList) (clean : ∀ f ∈ more, f.fault? = none) :
    ∀ f ∈ callerFields caller ++ .text name :: more, f.fault? = none := by
  have first : ∀ f ∈ callerFields caller, f.fault? = none := by
    cases caller <;> simp [callerFields, Field.fault?]
  simp only [List.forall_mem_append, List.forall_mem_cons]
  exact ⟨first, by simpa [Field.fault?] using free, clean⟩

theorem callBytes_ne_nil (caller : Option UInt16) (name : String) (params : List Param) :
    callBytes caller name params ≠ [] := by
  simp [callBytes, Param.encode]

namespace Table

variable {t : Table} {caller : Option UInt16} {name : String} {params : List Param}

/-- A call that was written fits, and its bytes have been appended. -/
theorem fits_of_writeCall {records : List Bytes} {w w' : Writer}
    (written : (ofRecords records).writeCall caller name params w = (.ok true, w')) :
    (∃ signature, (ofRecords records).get? name = some signature ∧ Fits signature params) ∧
      w.bytes.length + (callBytes caller name params).length ≤ w.limit ∧
      w' = { w with bytes := w.bytes ++ callBytes caller name params } := by
  obtain ⟨signature, fields, registered, count, eq, clean, bytes⟩ := writeCall_eq_ok written
  obtain ⟨more, rfl, carries⟩ := callFields_eq_ok eq count
  rw [callBytes_of_carries carries] at bytes
  have grown := (ofRecords records).writeCall_grown caller name params w
  rw [written] at grown
  obtain ⟨appended, rfl, room⟩ := grown
  have same : appended = callBytes caller name params := List.append_cancel_left bytes
  rw [same] at room ⊢
  have clean : ∀ f ∈ more, f.fault? = none := fun f mem => clean f (by simp [mem])
  exact ⟨⟨signature, registered, carries.fits (measured_ofRecords registered) clean⟩,
    room.resolve_left (callBytes_ne_nil caller name params), rfl⟩

/-- A call that fits is written if there is room for its bytes. -/
theorem writeCall_of_fits {signature : Signature} {w : Writer}
    (registered : t.get? name = some signature) (free : '\x00' ∉ name.toList)
    (short : signature.length ≤ maxParams) (fits : Fits signature params)
    (room : w.bytes.length + (callBytes caller name params).length ≤ w.limit) :
    t.writeCall caller name params w =
      (.ok true, { w with bytes := w.bytes ++ callBytes caller name params }) := by
  obtain ⟨more, carries, clean⟩ := fits.carries
  have count : params.length = signature.length := fits.kinds.length_eq.symm
  have put := Writer.putAll_room _ w (clean_call caller free clean)
    (by rwa [callBytes_of_carries carries])
  rw [callBytes_of_carries carries] at put
  rw [writeCall, registered]
  dsimp only
  rw [if_neg (by omega), if_neg (by simp [count]), callFields_of_carries carries, put]

theorem writeCall_eq_true {records : List Bytes} {w w' : Writer} :
    (ofRecords records).writeCall caller name params w = (.ok true, w') ↔
      (∃ signature, (ofRecords records).get? name = some signature ∧ Fits signature params) ∧
        w.bytes.length + (callBytes caller name params).length ≤ w.limit ∧
        w' = { w with bytes := w.bytes ++ callBytes caller name params } := by
  refine ⟨fits_of_writeCall, ?_⟩
  rintro ⟨⟨signature, registered, fits⟩, room, rfl⟩
  obtain ⟨record, -, said⟩ := isRecord_of_get? registered
  exact writeCall_of_fits registered said.free said.short fits room

theorem writeCall_eq_false {w w' : Writer} :
    t.writeCall caller name params w = (.ok false, w') ↔ t.get? name = none ∧ w' = w := by
  constructor
  · intro h
    unfold writeCall at h
    split at h
    · rename_i absent
      cases h
      exact ⟨absent, rfl⟩
    · split at h
      · cases h
      · split at h
        · cases h
        · split at h <;> cases h
  · rintro ⟨absent, rfl⟩
    rw [writeCall, absent]

/-- Whatever was registered, a call is written exactly if it fits the signature of its name and
there is room for its bytes, and then those have been appended. If its name is not registered
nothing is written, and in no case is anything taken back or the limit passed. -/
theorem writeCall_iff_fits (records : List Bytes) (caller : Option UInt16) (name : String)
    (params : List Param) (w w' : Writer) :
    ((ofRecords records).writeCall caller name params w = (.ok true, w') ↔
      (∃ signature, (ofRecords records).get? name = some signature ∧ Fits signature params) ∧
        w.bytes.length + (callBytes caller name params).length ≤ w.limit ∧
        w' = { w with bytes := w.bytes ++ callBytes caller name params }) ∧
    ((ofRecords records).writeCall caller name params w = (.ok false, w') ↔
      (ofRecords records).get? name = none ∧ w' = w) ∧
    w.bytes <+: ((ofRecords records).writeCall caller name params w).2.bytes ∧
    ((ofRecords records).writeCall caller name params w).2.bytes.length ≤
      max w.limit w.bytes.length := by
  have grown := (ofRecords records).writeCall_grown caller name params w
  exact ⟨writeCall_eq_true, writeCall_eq_false, grown.isPrefix, grown.length_le⟩

/-- The call of `OnHit` takes 32 bytes behind the one that is there, and is refused when there is
room for one less. -/
theorem writeCall_iff_hit :
    (ofRecords [hitRecord]).writeCall (some 9) "OnHit" hitParams ⟨[7], 33⟩ =
      (.ok true, ⟨7 :: callBytes (some 9) "OnHit" hitParams, 33⟩) ∧
    Fits [.value, .value, .array 0, .text] hitParams ∧
    ∀ w,
      (ofRecords [hitRecord]).writeCall (some 9) "OnHit" hitParams ⟨[7], 32⟩ ≠ (.ok true, w) := by
  have written : (ofRecords [hitRecord]).writeCall (some 9) "OnHit" hitParams ⟨[7], 33⟩ =
      (.ok true, ⟨7 :: callBytes (some 9) "OnHit" hitParams, 33⟩) := rfl
  refine ⟨written, ?_, fun w written => ?_⟩
  · obtain ⟨⟨signature, registered, fits⟩, -⟩ :=
      (writeCall_iff_fits [hitRecord] (some 9) "OnHit" hitParams ⟨[7], 33⟩ _).1.mp written
    cases registered
    exact fits
  · obtain ⟨-, room, -⟩ :=
      (writeCall_iff_fits [hitRecord] (some 9) "OnHit" hitParams ⟨[7], 32⟩ w).1.mp written
    exact absurd room (by decide)

end Table

end HostLink.Callback
