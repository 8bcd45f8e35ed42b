import HostLink.Native.Result
import HostLink.Proofs.Session.Forward
import HostLink.WeaponShot

/-!
# HostLink.Proofs.Answer

What answers are taken for. A native's result is read as its first cell; a shot that a player fires
is told to the runtime, and the answer may prevent it.

* `Native.Result.asCell_encode` — a result that begins with a parameter is read as that; there is a
  view for each kind, and none of a result that is too short (`Native.Result.viewed_iff`).
* `Session.Occurs.forwards_shot_iff` — which sessions forward a shot.
* `WeaponShot.decodeCall_callBytes` — what the runtime reads of it.
* `Session.call_shot` — a shot is prevented by an answer of zero, and by no other.
-/

namespace HostLink

open Callback (Param)

/-! ## Results of natives -/

namespace Native.Result

/-- What was read without regard to the bytes behind it. -/
theorem map_fst_eq_ok {α : Type} {read : Except Fault (α × Bytes)} {v : α} :
    read.map Prod.fst = .ok v ↔ ∃ rest, read = .ok (v, rest) := by
  cases read with
  | error e => simp [Except.map]
  | ok found => simp [Except.map, Prod.ext_iff]

theorem asCell_eq_ok {r : Result} {v : Int32} :
    r.asCell = .ok v ↔ Bytes.ofU32 v.toUInt32 <+: r.bytes := by
  rw [asCell, map_fst_eq_ok]
  simp only [Cell.Read.cell_eq_ok]
  exact exists_congr fun rest => eq_comm

/-- A number and a cell are two views of the same bytes. -/
theorem asFloat_eq_ok {r : Result} {bits : UInt32} :
    r.asFloat = .ok bits ↔ r.asCell = .ok bits.toInt32 := by
  rw [asCell_eq_ok, UInt32.toUInt32_toInt32, asFloat, Cell.Read.float, map_fst_eq_ok]
  simp only [Cell.Read.word_eq_ok]
  exact exists_congr fun rest => eq_comm

theorem asBool_eq_ok {r : Result} {b : Bool} :
    r.asBool = .ok b ↔ ∃ v, r.asCell = .ok v ∧ b = decide (v ≠ 0) := by
  unfold asBool
  cases r.asCell with
  | error e => simp [Except.map]
  | ok v => simp [Except.map, eq_comm]

/-- A result that begins with a parameter is read as the cell of that. -/
theorem asCell_encode {p : Param} {v : Int32} (fits : p.cell? = some v) (rest : Bytes) :
    asCell ⟨p.encode ++ rest⟩ = .ok v := by
  rw [asCell_eq_ok, Callback.Param.encode_of_cell fits]
  exact List.prefix_append _ _

theorem asFloat_encode (bits : UInt32) (rest : Bytes) :
    asFloat ⟨(Param.float bits).encode ++ rest⟩ = .ok bits :=
  asFloat_eq_ok.mpr (asCell_encode rfl rest)

theorem asBool_encode (b : Bool) (rest : Bytes) :
    asBool ⟨(Param.bool b).encode ++ rest⟩ = .ok b :=
  asBool_eq_ok.mpr ⟨_, asCell_encode rfl rest, by cases b <;> rfl⟩

/-- Four bytes are enough for every view, and fewer for none. -/
theorem viewed_iff (r : Result) :
    ((∃ v, r.asCell = .ok v) ↔ 4 ≤ r.bytes.length) ∧
    ((∃ bits, r.asFloat = .ok bits) ↔ 4 ≤ r.bytes.length) ∧
    ((∃ b, r.asBool = .ok b) ↔ 4 ≤ r.bytes.length) := by
  have cell : (∃ v, r.asCell = .ok v) ↔ 4 ≤ r.bytes.length := by
    constructor
    · rintro ⟨v, read⟩
      have word : (Bytes.ofU32 v.toUInt32).length = 4 := rfl
      have long := (asCell_eq_ok.mp read).length_le
      omega
    · intro long
      match h : r.bytes, long with
      | a :: b :: c :: d :: rest, _ =>
        have read : r.asCell = .ok (Bytes.toU32 a b c d).toInt32 := by
          rw [asCell, h]
          rfl
        exact ⟨_, read⟩
  refine ⟨cell, ?_, ?_⟩
  · rw [← cell]
    constructor
    · rintro ⟨bits, read⟩
      exact ⟨_, asFloat_eq_ok.mp read⟩
    · rintro ⟨v, read⟩
      exact ⟨v.toUInt32, asFloat_eq_ok.mpr (by rwa [Int32.toInt32_toUInt32])⟩
  · rw [← cell]
    constructor
    · rintro ⟨b, read⟩
      obtain ⟨v, read, -⟩ := asBool_eq_ok.mp read
      exact ⟨v, read⟩
    · rintro ⟨v, read⟩
      exact ⟨_, asBool_eq_ok.mpr ⟨v, read, rfl⟩⟩

end Native.Result

/-! ## Shots -/

namespace WeaponShot

theorem cells_params (shot : WeaponShot) : ∀ p ∈ shot.params, ∃ v, p.cell? = some v := by
  simp [params, Param.cell?]

/-- A shot is told by seven values. -/
theorem fits_params_iff {signature : Callback.Signature} {shot : WeaponShot} :
    Callback.Fits signature shot.params ↔ signature = List.replicate 7 .value :=
  Callback.fits_values_iff shot.cells_params

theorem free_callback : '\x00' ∉ callback.toList := by decide

theorem length_callBytes (caller : UInt16) (shot : WeaponShot) :
    (Callback.callBytes (some caller) callback shot.params).length = 49 := by
  rfl

/-- The runtime reads the shot that was fired, its position by the bits of the coordinates. -/
theorem decodeCall_callBytes (caller : UInt16) (shot : WeaponShot) :
    Callback.decodeCall (List.replicate 7 .value) true
        (Callback.callBytes (some caller) callback shot.params) =
      .ok ⟨some caller, callback, [.int shot.player, .int shot.weapon, .int shot.hitType,
        .int shot.hitId, .int shot.x.toInt32, .int shot.y.toInt32, .int shot.z.toInt32]⟩ := by
  have fits : Callback.Fits (List.replicate 7 .value) shot.params := fits_params_iff.mpr rfl
  have measured : Callback.Measured (List.replicate 7 .value) := by
    intro index mem
    cases List.eq_of_mem_replicate mem
  obtain ⟨fields, carries, clean⟩ := fits.carries
  have read := Callback.decodeCall_fields carries measured
    (Callback.clean_call (some caller) free_callback clean)
  rwa [Callback.callBytes_of_carries carries] at read

/-- The answer to a call has this value. -/
def Values (reply : Option Bytes) (v : Int32) : Prop :=
  ∃ flag rest, flag ≠ 0 ∧ reply = some (flag :: (Bytes.ofU32 v.toUInt32 ++ rest))

/-- An answer makes no difference to a shot but to whether it is prevented: it is when the value is
zero, and without a value it stays as it was. -/
theorem afterAnswer_replyValue (reply : Option Bytes) (shot : WeaponShot) :
    ∃ prevented, shot.afterAnswer (Session.replyValue reply) = { shot with prevented } ∧
      (prevented = true ↔
        Values reply 0 ∨ (∀ v, ¬ Values reply v) ∧ shot.prevented = true) := by
  cases given : Session.replyValue reply with
  | none =>
    have valueless (v : Int32) : ¬ Values reply v := by
      intro values
      rw [Session.replyValue_eq_some.mpr values] at given
      cases given
    exact ⟨shot.prevented, rfl, by simp [valueless]⟩
  | some v =>
    have values : Values reply v := Session.replyValue_eq_some.mp given
    refine ⟨decide (v = 0), rfl, ?_⟩
    constructor
    · intro zero
      obtain rfl : v = 0 := of_decide_eq_true zero
      exact .inl values
    · rintro (zero | ⟨valueless, -⟩)
      · rw [Session.replyValue_eq_some.mpr zero] at given
        exact decide_eq_true (Option.some.inj given).symm
      · exact absurd values (valueless v)

end WeaponShot

namespace Session

variable {κ η : Type} [Channel κ] [Host η] {caller : UInt16} {payload : Bytes} {shot : WeaponShot}

/-- A shot is forwarded by a session that lets calls out, to a runtime that has registered seven
values for it and takes 49 bytes. -/
theorem Occurs.forwards_shot_iff {s : Session κ η} (occurs : s.Occurs) :
    Forwards caller WeaponShot.callback shot.params payload s ↔
      LetsOut WeaponShot.callback s ∧
      s.callbacks.get? WeaponShot.callback = some (List.replicate 7 .value) ∧
      payload = Callback.callBytes (some caller) WeaponShot.callback shot.params ∧
      49 ≤ s.settings.maxPayloadSize.toNat := by
  rw [occurs.forwards_iff_fits]
  simp only [WeaponShot.fits_params_iff, exists_eq_right]
  refine and_congr_right fun _ => and_congr_right fun _ => and_congr_right ?_
  rintro rfl
  rw [WeaponShot.length_callBytes]

/-- A shot that no call went out for stays as it was. One that a call went out for is prevented as
the answer to it says. -/
theorem call_shot {patience : Nat} {s t : Session κ η} {value : Option Int32}
    (run : s.call patience caller WeaponShot.callback shot.params = some (value, t)) :
    (shot.afterAnswer value = shot ∧
      ∀ b, ¬ Calls caller WeaponShot.callback shot.params s b) ∨
    ∃ b reply u, Calls caller WeaponShot.callback shot.params s b ∧
      awaitReply patience b = some (reply, u) ∧
      ∃ prevented, shot.afterAnswer value = { shot with prevented } ∧
        (prevented = true ↔ WeaponShot.Values reply 0 ∨
          (∀ v, ¬ WeaponShot.Values reply v) ∧ shot.prevented = true) := by
  rcases call_cases run with ⟨rfl, withheld⟩ | ⟨b, reply, u, calls, waited, rfl, -⟩
  · exact .inl ⟨rfl, withheld⟩
  · exact .inr ⟨b, reply, u, calls, waited, WeaponShot.afterAnswer_replyValue reply shot⟩

end Session

end HostLink
