import HostLink.Callback.Param
import HostLink.Callback.Table
import HostLink.Cell.Writer

/-!
# HostLink.Callback.Call

Calls to callbacks as bytes: the caller if it is wanted, the name, and the parameters as the
signature declares them. A value is a cell, a text ends in NUL, an array is a count and its cells.

* `Table.writeCall` — writes a call, checking each parameter when its turn comes.
* `decodeCall` — reads one back, as the runtime does.
-/

namespace HostLink.Callback

open Cell (Field Writer)

/-- A length as a cell, when it fits one. -/
def lengthCell? (n : Nat) : Option Int32 :=
  if n < 2147483648 then some (Int32.ofNat n) else none

/-- The cell that the parameter at an index fits. -/
def declaredLength? (params : List Param) (index : UInt32) : Option Int32 :=
  match params[index.toNat]? with
  | some p => p.cell?
  | none => none

/-- The fields of the parameter at `index`, or the reason why it has none. -/
def paramFields (name : String) (params : List Param) (index : Nat) :
    Kind → Param → List (Except Fault Field)
  | .value, p =>
    match p.cell? with
    | some v => [.ok (.cell v)]
    | none => [.error (.signatureMismatch name (.notValue index))]
  | .text, .text t => [.ok (.text t)]
  | .array lengthParam, .array cells =>
    let declared := declaredLength? params lengthParam
    if declared = lengthCell? cells.length then
      .ok (.u32 (UInt32.ofNat cells.length)) :: cells.map fun v => .ok (.cell v)
    else
      [.error (.signatureMismatch name (.lengthDisagrees index cells.length declared))]
  | kind, _ => [.error (.signatureMismatch name (.wrongKind index kind))]

/-- The fields of the parameters from `index` on. -/
def paramsFields (name : String) (params : List Param) :
    Nat → Signature → List Param → List (Except Fault Field)
  | index, kind :: kinds, p :: ps =>
    paramFields name params index kind p ++ paramsFields name params (index + 1) kinds ps
  | _, _, _ => []

def callFields (caller : Option UInt16) (name : String) (signature : Signature)
    (params : List Param) : List (Except Fault Field) :=
  (match caller with
    | some c => [.ok (.u16 c)]
    | none => []) ++
    .ok (.text name) :: paramsFields name params 0 signature params

/-- Writes a call to a registered callback. The answer tells whether there is one of that name; if
there is none nothing is written, and on a fault what was written before it stays. -/
def Table.writeCall (caller : Option UInt16) (name : String) (params : List Param) (w : Writer)
    (t : Table) : Except Fault Bool × Writer :=
  match t.get? name with
  | none => (.ok false, w)
  | some signature =>
    if maxParams < params.length then (.error (.signatureMismatch name .tooManyParameters), w)
    else if params.length ≠ signature.length then
      (.error (.signatureMismatch name (.wrongCount signature.length params.length)), w)
    else
      match w.putAll (callFields caller name signature params) with
      | (.ok (), w) => (.ok true, w)
      | (.error e, w) => (.error e, w)

/-- A call as the runtime sees it; values are read as whole numbers. -/
structure DecodedCall where
  caller : Option UInt16
  name : String
  params : List Param
  deriving DecidableEq, Repr

def decodeCells : Nat → Bytes → Except Fault (List Int32 × Bytes)
  | 0, bytes => .ok ([], bytes)
  | n + 1, bytes =>
    match Cell.Read.cell bytes with
    | .error e => .error e
    | .ok (v, rest) =>
      match decodeCells n rest with
      | .error e => .error e
      | .ok (vs, rest) => .ok (v :: vs, rest)

/-- A parameter of a kind. A count of more cells than the bytes can hold is refused at once. -/
def decodeParam : Kind → Bytes → Except Fault (Param × Bytes)
  | .value, bytes =>
    match Cell.Read.cell bytes with
    | .ok (v, rest) => .ok (.int v, rest)
    | .error e => .error e
  | .text, bytes =>
    match Cell.Read.text bytes with
    | .ok (t, rest) => .ok (.text t, rest)
    | .error e => .error e
  | .array _, bytes =>
    match Cell.Read.u32 bytes with
    | .error e => .error e
    | .ok (count, rest) =>
      if rest.length / 4 < count.toNat then .error (.protocol (.arrayOverrun count.toNat))
      else
        match decodeCells count.toNat rest with
        | .ok (vs, rest) => .ok (.array vs, rest)
        | .error e => .error e

def decodeParams : Signature → Bytes → Except Fault (List Param × Bytes)
  | [], bytes => .ok ([], bytes)
  | kind :: kinds, bytes =>
    match decodeParam kind bytes with
    | .error e => .error e
    | .ok (p, rest) =>
      match decodeParams kinds rest with
      | .error e => .error e
      | .ok (ps, rest) => .ok (p :: ps, rest)

/-- The caller of a call, when the bytes start with one. -/
def decodeCaller (hasCaller : Bool) (bytes : Bytes) : Except Fault (Option UInt16 × Bytes) :=
  if hasCaller then
    match Cell.Read.u16 bytes with
    | .ok (caller, rest) => .ok (some caller, rest)
    | .error e => .error e
  else .ok (none, bytes)

/-- The call that the bytes are, under a signature. Nothing may follow the last parameter. -/
def decodeCall (signature : Signature) (hasCaller : Bool) (bytes : Bytes) :
    Except Fault DecodedCall :=
  match decodeCaller hasCaller bytes with
  | .error e => .error e
  | .ok (caller, bytes) =>
    match Cell.Read.text bytes with
    | .error e => .error e
    | .ok (name, bytes) =>
      match decodeParams signature bytes with
      | .error e => .error e
      | .ok (params, []) => .ok ⟨caller, name, params⟩
      | .ok (_, rest) => .error (.protocol (.trailing rest.length name))

end HostLink.Callback
