import HostLink.Proofs.Cell.RoundTrip
import HostLink.Proofs.Payload
import HostLink.Proofs.Text.Boundary

/-!
# HostLink.Proofs.Announcement

What a runtime makes of an announcement. It finds the versions, and of the directory as many whole
characters as have room; the bytes it gets are those of a text, so it replaces none of them
(`Announcement.longest_decoded`).
-/

namespace HostLink

/-- Nothing is replaced in the bytes of a text. -/
theorem Utf8.lossy_encode (text : String) : lossy (encode text) = text := by
  rw [lossy, encode, items_flatMap, List.map_map]
  have same : Item.lenient ∘ Item.char = id := rfl
  rw [same, List.map_id, String.ofList_toList]

namespace Announcement

/-- Behind the versions there is nothing but the directory. -/
theorem decode_versions (protocol build : UInt32) (dir : Bytes) :
    decode (Bytes.ofU32 protocol ++ (Bytes.ofU32 build ++ dir)) =
      .ok ⟨protocol, build, Utf8.lossy dir⟩ := by
  have first := Cell.Read.u32_encode protocol (Bytes.ofU32 build ++ dir)
  have second := Cell.Read.u32_encode build dir
  simp only [Cell.Field.encode] at first second
  simp only [decode, first, second]

/-- The whole characters of the directory that have room. -/
def keptDir (a : Announcement) : String :=
  String.ofList
    (Utf8.fitting (min (Utf8.encode a.workingDir).length maxPath) a.workingDir.toList)

theorem sentDir_eq (a : Announcement) : a.sentDir = Utf8.encode a.keptDir := by
  have kept : Utf8.encode a.keptDir =
      (Utf8.fitting (min (Utf8.encode a.workingDir).length maxPath)
        a.workingDir.toList).flatMap String.utf8EncodeChar := by
    rw [keptDir, Utf8.encode, String.toList_ofList]
  rw [kept]
  exact Utf8.take_lastBoundary (Nat.min_le_left _ _)

/-- A text is a front of the characters kept exactly if it is one of the directory and has room. -/
theorem prefix_keptDir (a : Announcement) (front : String) : front.toList <+: a.keptDir.toList ↔
    front.toList <+: a.workingDir.toList ∧ (Utf8.encode front).length ≤ maxPath := by
  rw [keptDir, String.toList_ofList]
  constructor
  · intro isFront
    have short := Utf8.length_fitting (min (Utf8.encode a.workingDir).length maxPath)
      a.workingDir.toList
    obtain ⟨others, eq⟩ := isFront
    rw [← eq, List.flatMap_append, List.length_append] at short
    refine ⟨List.IsPrefix.trans ⟨others, eq⟩ (Utf8.fitting_prefix _ _), ?_⟩
    rw [Utf8.encode]
    omega
  · rintro ⟨isFront, short⟩
    refine Utf8.prefix_fitting isFront ?_
    obtain ⟨others, eq⟩ := isFront
    have within : (Utf8.encode front).length ≤ (Utf8.encode a.workingDir).length := by
      rw [Utf8.encode, Utf8.encode, ← eq, List.flatMap_append, List.length_append]
      exact Nat.le_add_right _ _
    exact Nat.le_min.mpr ⟨within, short⟩

/-- Every announcement can be encoded, in 268 bytes at most. The search for the place where to cut
the directory stops at such a place. What is decoded are the versions and the longest front of the
directory with 260 bytes at most, which is all of it if it has no more; and all that is found in the
bytes behind the versions are its characters. -/
theorem longest_decoded (a : Announcement) : ∃ (payload : Bytes) (kept : String),
    a.encode = .ok payload ∧ payload.length ≤ 268 ∧
    Utf8.cutFrom (Utf8.encode a.workingDir) (min (Utf8.encode a.workingDir).length 260) =
      some (payload.length - 8) ∧
    decode payload = .ok ⟨a.protocolVersion, a.buildVersion, kept⟩ ∧
    (∀ front : String, front.toList <+: kept.toList ↔
      front.toList <+: a.workingDir.toList ∧ (Utf8.encode front).length ≤ 260) ∧
    ((Utf8.encode a.workingDir).length ≤ 260 → kept = a.workingDir) ∧
    Utf8.items (payload.drop 8) = kept.toList.map .char := by
  have size : a.sentDir.length ≤ 260 := a.length_sentDir
  have long : (Bytes.ofU32 a.protocolVersion ++ (Bytes.ofU32 a.buildVersion ++ a.sentDir)).length =
      8 + a.sentDir.length := by
    simp only [List.length_append, Bytes.length_ofU32]
    omega
  refine ⟨_, a.keptDir, a.encode_eq, by omega, ?_, ?_, a.prefix_keptDir, ?_, ?_⟩
  · rw [Utf8.cutFrom_encode, long, Nat.add_sub_cancel_left]
    have cut := Utf8.lastBoundary_le (Utf8.encode a.workingDir)
      (min (Utf8.encode a.workingDir).length maxPath)
    have taken : a.sentDir.length = Utf8.lastBoundary (Utf8.encode a.workingDir)
        (min (Utf8.encode a.workingDir).length maxPath) := by
      rw [sentDir, List.length_take]
      omega
    rw [taken]
    rfl
  · rw [decode_versions, sentDir_eq, Utf8.lossy_encode]
  · intro short
    have whole : a.workingDir.toList <+: a.keptDir.toList :=
      (a.prefix_keptDir a.workingDir).mpr ⟨List.prefix_rfl, short⟩
    have front := ((a.prefix_keptDir a.keptDir).mp List.prefix_rfl).1
    exact String.toList_inj.mp (front.eq_of_length_le whole.length_le)
  · change Utf8.items a.sentDir = _
    rw [sentDir_eq, Utf8.encode, Utf8.items_flatMap]

end Announcement

end HostLink
