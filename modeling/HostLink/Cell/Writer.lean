import HostLink.Fault

/-!
# HostLink.Cell.Writer

Building a payload field by field under a size limit. A field that would pass the limit, or a text
with a NUL inside, is refused and leaves no byte behind.

* `Writer.put`    — one field.
* `Writer.putAll` — fields in order up to the first that is refused; those before it stay.
-/

namespace HostLink.Cell

/-- The bytes written so far and how many there may be. -/
structure Writer where
  bytes : Bytes
  limit : Nat
  deriving DecidableEq, Repr

/-- Why a field cannot be written whatever the limit. -/
def Field.fault? : Field → Option Fault
  | .text t => if t.toList.contains '\x00' then some (.protocol (.containsNul t)) else none
  | _ => none

namespace Writer

/-- A writer with nothing written. -/
def empty (limit : Nat) : Writer := ⟨[], limit⟩

def length (w : Writer) : Nat := w.bytes.length

def put (f : Field) (w : Writer) : Except Fault Writer :=
  match f.fault? with
  | some e => .error e
  | none =>
    if w.limit < w.bytes.length + f.encode.length then
      .error (.payloadTooLarge (w.bytes.length + f.encode.length) w.limit)
    else .ok { w with bytes := w.bytes ++ f.encode }

def putAll : List (Except Fault Field) → Writer → Except Fault Unit × Writer
  | [], w => (.ok (), w)
  | .error e :: _, w => (.error e, w)
  | .ok f :: rest, w =>
    match w.put f with
    | .ok w' => putAll rest w'
    | .error e => (.error e, w)

/-- The writer after a field was offered, and whether it was taken. -/
def offer (f : Field) (w : Writer) : Except Fault Unit × Writer :=
  putAll [.ok f] w

/-- A field that is taken is appended, and the limit stays. -/
theorem put_eq_ok {f : Field} {w w' : Writer} (h : w.put f = .ok w') :
    w' = { w with bytes := w.bytes ++ f.encode } := by
  unfold put at h
  split at h
  · cases h
  · split at h <;> cases h
    rfl

end Writer

end HostLink.Cell
