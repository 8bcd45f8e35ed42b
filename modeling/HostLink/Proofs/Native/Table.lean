import HostLink.Native.Table
import HostLink.Proofs.Payload
import Mathlib.Data.List.Nodup

/-!
# HostLink.Proofs.Native.Table

What a table of natives does with the two requests of a runtime.

* `Resolves` — the ways in which a lookup can go. A sound table stays sound (`Sound.resolve`): every
  name is bound once, and its handle is its place (`index?_of_getElem?`, `get?_of_getElem?`).
* `invoke_cases` — to the answer to an invocation the native adds its whole result or nothing.
-/

namespace HostLink.Native.Table

open Cell (Writer)

variable {η : Type}

/-! ## Lookups -/

def names (t : Table η) : List String := t.entries.map Prod.fst

/-- Every name is bound once and every place is a handle. -/
structure Sound (t : Table η) : Prop where
  nodup : t.names.Nodup
  room : t.length ≤ maxHandles

theorem sound_empty : (empty : Table η).Sound where
  nodup := List.nodup_nil
  room := Nat.zero_le maxHandles

theorem index?_eq_none {name : String} {t : Table η} : t.index? name = none ↔ name ∉ t.names := by
  simp only [index?, names, List.findIdx?_eq_none_iff, List.mem_map, not_exists, not_and,
    decide_eq_false_iff_not]

theorem index?_eq_some {name : String} {t : Table η} {i : Nat} (h : t.index? name = some i) :
    ∃ native, t.entries[i]? = some (name, native) := by
  obtain ⟨bound, same, -⟩ := List.findIdx?_eq_some_iff_getElem.mp h
  refine ⟨t.entries[i].2, ?_⟩
  rw [List.getElem?_eq_getElem bound, ← of_decide_eq_true same]

/-- A name that is bound once has its place as its index. -/
theorem index?_of_getElem? {name : String} {t : Table η} {i : Nat} {native : Native η}
    (nodup : t.names.Nodup) (h : t.entries[i]? = some (name, native)) :
    t.index? name = some i := by
  obtain ⟨bound, at_i⟩ := List.getElem?_eq_some_iff.mp h
  refine List.findIdx?_eq_some_iff_getElem.mpr ⟨bound, by simp [at_i], fun j earlier => ?_⟩
  have inside : j < t.names.length := by simp only [names, List.length_map]; omega
  have inside' : i < t.names.length := by simpa [names] using bound
  have distinct : t.names[j] ≠ t.names[i] := by
    intro same
    have := (nodup.getElem_inj_iff).mp same
    omega
  simpa [names, at_i] using distinct

/-- A place that is a handle is read back from it. -/
theorem toNat_ofNat_handle {i : Nat} (small : i < maxHandles) :
    ¬ Int32.ofNat i < 0 ∧ (Int32.ofNat i).toInt.toNat = i := by
  have place : (Int32.ofNat i).toInt = i := Int32.toInt_ofNat_of_lt small
  refine ⟨?_, by rw [place]; rfl⟩
  rw [Int32.lt_iff_toInt_lt, place]
  simp

/-- A native is found under its place as a handle. -/
theorem get?_of_getElem? {t : Table η} {i : Nat} {name : String} {native : Native η}
    (small : i < maxHandles) (h : t.entries[i]? = some (name, native)) :
    t.get? (Int32.ofNat i) = some native := by
  obtain ⟨nonneg, place⟩ := toNat_ofNat_handle small
  rw [get?, if_neg nonneg, place, h]

section Resolve

variable [Host η]

/-- The ways in which a lookup can go. -/
inductive Resolves (name : String) (t : Table η) (host : η) : Resolution η → Prop where
  | known {i : Nat} (h : t.index? name = some i) :
      Resolves name t host ⟨.known (Int32.ofNat i), none, t, host⟩
  | unknown {host' : η} (new : t.index? name = none)
      (h : Host.findNative name host = (none, host')) :
      Resolves name t host ⟨.unknown, some none, t, host'⟩
  | bound {native : Native η} {host' : η} (new : t.index? name = none)
      (h : Host.findNative name host = (some native, host')) (room : t.length < maxHandles) :
      Resolves name t host ⟨.bound (Int32.ofNat t.length), some (some native),
        ⟨t.entries ++ [(name, native)]⟩, host'⟩
  | full {native : Native η} {host' : η} (new : t.index? name = none)
      (h : Host.findNative name host = (some native, host')) (full : maxHandles ≤ t.length) :
      Resolves name t host ⟨.unknown, some (some native), t, host'⟩

theorem resolves (name : String) (t : Table η) (host : η) :
    Resolves name t host (t.resolve name host) := by
  unfold resolve
  split
  · rename_i i known
    exact .known known
  · rename_i new
    split
    · rename_i host' missing
      exact .unknown new missing
    · rename_i native host' found
      split
      · rename_i room
        exact .bound new found room
      · rename_i full
        exact .full new found (Nat.not_lt.mp full)

/-- A lookup leaves a sound table sound. -/
theorem Sound.resolve {name : String} {t : Table η} {host : η} {r : Resolution η} (sound : t.Sound)
    (h : Resolves name t host r) : r.table.Sound := by
  cases h with
  | known => exact sound
  | unknown => exact sound
  | full => exact sound
  | bound new found room =>
    rw [index?_eq_none] at new
    refine ⟨?_, ?_⟩
    · simp only [names, List.map_append, List.map_cons, List.map_nil]
      refine List.nodup_append.mpr ⟨sound.nodup, by simp, fun a mem b single => ?_⟩
      rw [List.mem_singleton.mp single]
      exact fun same => new (same ▸ mem)
    · simp only [length, List.length_append, List.length_cons, List.length_nil] at room ⊢
      omega

end Resolve

/-! ## Invocations -/

/-- The request holds the handle of a native, and this native succeeds with a result. -/
def Yields (request result : Bytes) (t : Table η) (host : η) : Prop :=
  ∃ handle args native, Cell.Read.cell request = .ok (handle, args) ∧
    t.get? handle = some native ∧ (native args host).refuse.result = .ok result

/-- The whole result was appended, and its length was returned. -/
structure Appended (w : Writer) (result : Bytes) (i : Invocation η) : Prop where
  room : w.bytes.length + result.length ≤ w.limit
  returned : i.result = .ok result.length
  writer : i.writer = { w with bytes := w.bytes ++ result }

/-- The invocation failed and wrote nothing. -/
structure Failed (w : Writer) (i : Invocation η) : Prop where
  returned : ∃ e, i.result = .error e
  writer : i.writer = w

theorem find_eq_ok {request args : Bytes} {t : Table η} {native : Native η} :
    t.find request = .ok (native, args) ↔ ∃ handle,
      Cell.Read.cell request = .ok (handle, args) ∧ t.get? handle = some native := by
  unfold find
  cases Cell.Read.cell request with
  | error e => simp
  | ok r =>
    obtain ⟨handle, args'⟩ := r
    dsimp only
    cases bound : t.get? handle with
    | none => simp [bound]
    | some native' => simp [bound, and_comm]

/-- A native is appended as a whole or not at all; it is appended if there is a result with room for
it. -/
theorem append_cases (result : Except Fault Bytes) (w : Writer) :
    (∃ bytes, result = .ok bytes ∧ w.bytes.length + bytes.length ≤ w.limit ∧
      append result w = (.ok bytes.length, { w with bytes := w.bytes ++ bytes })) ∨
    (∀ bytes, result = .ok bytes → w.limit < w.bytes.length + bytes.length) ∧
      ∃ e, append result w = (.error e, w) := by
  cases result with
  | error e =>
    refine .inr ⟨fun bytes same => ?_, e, rfl⟩
    cases same
  | ok bytes =>
    by_cases room : w.bytes.length + bytes.length ≤ w.limit
    · have taken : w.put (.raw bytes) = .ok { w with bytes := w.bytes ++ bytes } :=
        if_neg (Nat.not_lt.mpr room)
      exact .inl ⟨bytes, rfl, room, by simp only [append, taken]⟩
    · have refused : w.put (.raw bytes) = .error _ := if_pos (Nat.lt_of_not_le room)
      refine .inr ⟨fun other same => ?_, ?_⟩
      · cases same
        exact Nat.lt_of_not_le room
      · simp only [append, refused]
        exact ⟨_, rfl⟩

/-- An invocation appends the whole result of its native if there is one and room for it, and fails
otherwise. -/
theorem invoke_cases (request : Bytes) (w : Writer) (t : Table η) (host : η) :
    (∃ result, t.Yields request result host ∧ Appended w result (t.invoke request w host)) ∨
    (∀ result, t.Yields request result host → w.limit < w.bytes.length + result.length) ∧
      Failed w (t.invoke request w host) := by
  unfold invoke
  split
  · rename_i e lost
    refine .inr ⟨fun result ⟨handle, args, native, read, bound, _⟩ => ?_, ⟨e, rfl⟩, rfl⟩
    rw [find_eq_ok.mpr ⟨handle, read, bound⟩] at lost
    cases lost
  · rename_i native args found
    have only {result : Bytes} (yields : t.Yields request result host) :
        (native args host).refuse.result = .ok result := by
      obtain ⟨handle, args', native', read, bound, succeeds⟩ := yields
      cases found.symm.trans (find_eq_ok.mpr ⟨handle, read, bound⟩)
      exact succeeds
    dsimp only
    rcases append_cases (native args host).refuse.result w with
      ⟨bytes, succeeds, room, eq⟩ | ⟨short, e, eq⟩ <;> rw [eq]
    · obtain ⟨handle, read, bound⟩ := find_eq_ok.mp found
      exact .inl ⟨bytes, ⟨handle, args, native, read, bound, succeeds⟩, room, rfl, rfl⟩
    · exact .inr ⟨fun result yields => short result (only yields), ⟨e, rfl⟩, rfl⟩

theorem invoke_bytes (request : Bytes) (w : Writer) (t : Table η) (host : η) :
    (∃ result, t.Yields request result host ∧ w.bytes.length + result.length ≤ w.limit ∧
      (t.invoke request w host).writer.bytes = w.bytes ++ result) ∨
    (∀ result, t.Yields request result host → w.limit < w.bytes.length + result.length) ∧
      (t.invoke request w host).writer.bytes = w.bytes := by
  rcases invoke_cases request w t host with ⟨result, yields, appended⟩ | ⟨fails, failed⟩
  · exact .inl ⟨result, yields, appended.room, by rw [appended.writer]⟩
  · exact .inr ⟨fails, by rw [failed.writer]⟩

end HostLink.Native.Table
