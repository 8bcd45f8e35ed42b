import HostLink.Callback.Call
import HostLink.Proofs.Callback.Record

/-!
# HostLink.Proofs.Callback.Fields

What a call is written from. `Carried` says for one parameter, and `Carries` for all in order, which
fields a parameter that fits its kind is written as.

* `paramsFields_eq_ok`, `Carries.paramsFields` — the fields offered to a writer are free of
  complaint exactly when they carry the parameters.
* `Carries.declared` — under a measured signature, as a table filled by records has them, the length
  of every array is a cell.
-/

namespace HostLink.Callback

open Cell (Field)

/-- The parameter fits its kind, and is carried by these fields. -/
inductive Carried (params : List Param) : Kind → Param → List Field → Prop where
  | value {p : Param} {v : Int32} (h : p.cell? = some v) : Carried params .value p [.cell v]
  | text (t : String) : Carried params .text (.text t) [.text t]
  | array {index : UInt32} {cells : List Int32}
      (h : declaredLength? params index = lengthCell? cells.length) :
      Carried params (.array index) (.array cells)
        (.u32 (UInt32.ofNat cells.length) :: cells.map .cell)

/-- The parameters fit a signature, and are carried by these fields. -/
inductive Carries (params : List Param) : Signature → List Param → List Field → Prop where
  | nil : Carries params [] [] []
  | cons {kind : Kind} {p : Param} {fields more : List Field} {kinds : Signature}
      {ps : List Param} (first : Carried params kind p fields)
      (others : Carries params kinds ps more) :
      Carries params (kind :: kinds) (p :: ps) (fields ++ more)

theorem map_ok_inj {fields fields' : List Field}
    (h : fields.map (.ok : Field → Except Fault Field) = fields'.map .ok) : fields = fields' :=
  (List.map_inj_right fun _ _ => Except.ok.inj).mp h

theorem error_ne_map_ok (e : Fault) (fields : List Field) :
    [(.error e : Except Fault Field)] ≠ fields.map .ok := by
  intro h
  obtain ⟨f, -, -, error, -⟩ := List.map_eq_cons_iff.mp h.symm
  cases error

theorem paramFields_eq_ok {name : String} {params : List Param} {index : Nat} {kind : Kind}
    {p : Param} {fields : List Field} (h : paramFields name params index kind p = fields.map .ok) :
    Carried params kind p fields := by
  unfold paramFields at h
  split at h
  · split at h
    · rename_i v fits
      obtain rfl : [.cell v] = fields := map_ok_inj h
      exact .value fits
    · exact absurd h (error_ne_map_ok _ _)
  · rename_i t
    obtain rfl : [.text t] = fields := map_ok_inj h
    exact .text t
  · rename_i lengthParam cells
    dsimp only at h
    split at h
    · rename_i agrees
      obtain rfl : .u32 (UInt32.ofNat cells.length) :: cells.map .cell = fields :=
        map_ok_inj (by rw [← h, List.map_cons, List.map_map]; rfl)
      exact .array agrees
    · exact absurd h (error_ne_map_ok _ _)
  · exact absurd h (error_ne_map_ok _ _)

theorem Carried.paramFields {params : List Param} {kind : Kind} {p : Param} {fields : List Field}
    (h : Carried params kind p fields) (name : String) (index : Nat) :
    paramFields name params index kind p = fields.map .ok := by
  cases h with
  | value fits => rw [Callback.paramFields, fits]; rfl
  | text t => rfl
  | array agrees =>
    rw [Callback.paramFields, if_pos agrees, List.map_cons, List.map_map]
    rfl

theorem paramsFields_eq_ok {name : String} {params : List Param} {index : Nat}
    {signature : Signature} {ps : List Param} {fields : List Field}
    (h : paramsFields name params index signature ps = fields.map .ok)
    (count : ps.length = signature.length) : Carries params signature ps fields := by
  induction signature generalizing index ps fields with
  | nil =>
    obtain rfl := List.eq_nil_of_length_eq_zero count
    obtain rfl := List.map_eq_nil_iff.mp h.symm
    exact .nil
  | cons kind kinds ih =>
    cases ps with
    | nil => cases count
    | cons p ps =>
      obtain ⟨first, more, rfl, here, there⟩ := List.map_eq_append_iff.mp h.symm
      exact .cons (paramFields_eq_ok here.symm) (ih there.symm (Nat.succ.inj count))

theorem Carries.paramsFields {params : List Param} {signature : Signature} {ps : List Param}
    {fields : List Field} (h : Carries params signature ps fields) (name : String) (index : Nat) :
    paramsFields name params index signature ps = fields.map .ok := by
  induction h generalizing index with
  | nil => rfl
  | cons first others ih =>
    rw [Callback.paramsFields, first.paramFields name index, ih (index + 1), List.map_append]

namespace Carries

variable {params : List Param} {signature : Signature} {ps : List Param} {fields : List Field}

/-- Where the signature has a kind, there is a parameter that fits it. -/
theorem carried (h : Carries params signature ps fields) {i : Nat} {kind : Kind}
    (declared : signature[i]? = some kind) :
    ∃ p here, ps[i]? = some p ∧ Carried params kind p here := by
  induction h generalizing i with
  | nil => cases declared
  | cons first others ih =>
    cases i with
    | zero =>
      cases declared
      exact ⟨_, _, rfl, first⟩
    | succ i => exact ih declared

theorem cell_of_value (h : Carries params signature ps fields) {i : Nat}
    (value : signature[i]? = some .value) : ∃ p v, ps[i]? = some p ∧ p.cell? = some v := by
  obtain ⟨p, here, there, fitting⟩ := h.carried value
  cases fitting with
  | value fits => exact ⟨p, _, there, fits⟩

/-- Every array has its length declared. -/
theorem declared (h : Carries ps signature ps fields) (measured : Measured signature)
    {index : UInt32} (mem : .array index ∈ signature) : declaredLength? ps index ≠ none := by
  obtain ⟨p, v, there, fits⟩ := h.cell_of_value (measured index mem)
  simp [declaredLength?, there, fits]

end Carries

end HostLink.Callback
