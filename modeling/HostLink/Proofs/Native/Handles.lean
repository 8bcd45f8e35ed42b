import HostLink.Proofs.Native.Table
import HostLink.Scripted.Catalog
import Mathlib.Data.List.Induction
import Mathlib.Logic.Function.Basic

/-!
# HostLink.Proofs.Native.Handles

The life of a table of natives. Names are looked up in it, and now and then it is emptied; the host
may say something else at every lookup (`Use`, `after`).

* `given_iff` — a name has the handle and the native that it was given when it was first found since
  the table was last emptied (`Given`), whatever the host says later.
* `handles_given` — so the handles are the numbers from zero up to the length, one for each name, and
  an invocation writes all that its native returns or nothing.
* `directory_after` — a map from names to handles and a row of natives, of which a lookup enters one
  after the other, stay in step with the table.
-/

namespace HostLink.Native.Table

variable {η : Type}

/-- The handle of a name. -/
def handle? (name : String) (t : Table η) : Option Int32 := (t.index? name).map Int32.ofNat

/-- Something that is done with a table. A lookup meets the host as it is at that time. -/
inductive Use (η : Type) where
  | lookup (name : String) (host : η)
  | clear

/-- The use leaves in the table what is in it. -/
def Use.keeps : Use η → Bool
  | .lookup _ _ => true
  | .clear => false

section Lookups

variable [Host η]

/-- The table after a use of it. -/
def used (u : Use η) (t : Table η) : Table η :=
  match u with
  | .lookup name host => (t.resolve name host).table
  | .clear => empty

def after (uses : List (Use η)) (t : Table η) : Table η := uses.foldl (fun t u => t.used u) t

@[simp] theorem after_nil (t : Table η) : t.after [] = t := rfl

@[simp] theorem after_cons (u : Use η) (uses : List (Use η)) (t : Table η) :
    t.after (u :: uses) = (t.used u).after uses := rfl

theorem after_append (uses later : List (Use η)) (t : Table η) :
    t.after (uses ++ later) = (t.after uses).after later := List.foldl_append

theorem Sound.used {t : Table η} (sound : t.Sound) (u : Use η) : (t.used u).Sound := by
  cases u with
  | lookup name host => exact sound.resolve (resolves name t host)
  | clear => exact sound_empty

theorem Sound.after {t : Table η} (sound : t.Sound) (uses : List (Use η)) :
    (t.after uses).Sound := by
  induction uses generalizing t with
  | nil => exact sound
  | cons u uses ih => exact ih (sound.used u)

/-! ## What stays in a table -/

theorem entries_used {u : Use η} (keeps : u.keeps = true) (t : Table η) :
    t.entries <+: (t.used u).entries := by
  cases u with
  | lookup name host =>
    have outcome := resolves name t host
    rw [Table.used]
    generalize t.resolve name host = r at outcome ⊢
    cases outcome with
    | known => exact List.prefix_refl _
    | unknown => exact List.prefix_refl _
    | full => exact List.prefix_refl _
    | bound => exact List.prefix_append _ _
  | clear => cases keeps

theorem entries_after {uses : List (Use η)} (keep : ∀ u ∈ uses, u.keeps = true) (t : Table η) :
    t.entries <+: (t.after uses).entries := by
  induction uses generalizing t with
  | nil => exact List.prefix_refl _
  | cons u uses ih =>
    obtain ⟨first, others⟩ := List.forall_mem_cons.mp keep
    exact (entries_used first t).trans (ih others (t.used u))

/-- A lookup gave the name this handle, with the native that the host had for it then, and since then
the table was not emptied. -/
def Given (uses : List (Use η)) (name : String) (handle : Int32) (native : Native η) : Prop :=
  ∃ before host since, uses = before ++ .lookup name host :: since ∧
    (∀ u ∈ since, u.keeps = true) ∧
    ((empty.after before).resolve name host).lookup = .bound handle ∧
    (Host.findNative name host).1 = some native

theorem Given.next {uses : List (Use η)} {name : String} {handle : Int32} {native : Native η}
    (given : Given uses name handle native) {u : Use η} (keeps : u.keeps = true) :
    Given (uses ++ [u]) name handle native := by
  obtain ⟨before, host, since, rfl, keep, bound, found⟩ := given
  refine ⟨before, host, since ++ [u], by simp, fun v mem => ?_, bound, found⟩
  rcases List.mem_append.mp mem with old | new
  · exact keep v old
  · rw [List.mem_singleton.mp new]
    exact keeps

/-- What was found by a lookup is entered at the end, and its place is its handle. -/
theorem entry_of_bound {name : String} {t : Table η} {host : η} {handle : Int32}
    {native : Native η} (bound : (t.resolve name host).lookup = .bound handle)
    (found : (Host.findNative name host).1 = some native) :
    handle = Int32.ofNat t.length ∧
      (t.resolve name host).table.entries = t.entries ++ [(name, native)] := by
  have outcome := resolves name t host
  generalize t.resolve name host = r at outcome bound ⊢
  cases outcome with
  | known => cases bound
  | unknown => cases bound
  | full => cases bound
  | bound new said room =>
    rw [said] at found
    cases found
    cases bound
    exact ⟨rfl, rfl⟩

/-- A name that was given a handle has the entry at this place. -/
theorem Given.entry {uses : List (Use η)} {name : String} {handle : Int32} {native : Native η}
    (given : Given uses name handle native) :
    ∃ i, handle = Int32.ofNat i ∧ (empty.after uses).entries[i]? = some (name, native) := by
  obtain ⟨before, host, since, rfl, keep, bound, found⟩ := given
  obtain ⟨place, entered⟩ := entry_of_bound bound found
  obtain ⟨rest, stay⟩ := entries_after keep ((empty.after before).resolve name host).table
  refine ⟨(empty.after before).length, place, ?_⟩
  rw [after_append, after_cons, used, ← stay, entered, List.append_assoc, length,
    List.getElem?_append_right (Nat.le_refl _), Nat.sub_self]
  rfl

/-- Whatever is in a table was given its place by a lookup. -/
theorem given_of_entry {uses : List (Use η)} {i : Nat} {name : String} {native : Native η}
    (h : (empty.after uses).entries[i]? = some (name, native)) :
    Given uses name (Int32.ofNat i) native := by
  induction uses using List.reverseRecOn with
  | nil => cases h
  | append_singleton uses u ih =>
    rw [after_append, after_cons, after_nil] at h
    cases u with
    | clear => cases h
    | lookup name' host =>
      rw [used] at h
      have outcome := resolves name' (empty.after uses) host
      generalize result : (empty.after uses).resolve name' host = r at h outcome
      cases outcome with
      | known => exact (ih h).next rfl
      | unknown => exact (ih h).next rfl
      | full => exact (ih h).next rfl
      | @bound native' host' new said room =>
        rcases Nat.lt_or_ge i (empty.after uses).length with old | last
        · rw [List.getElem?_append_left old] at h
          exact (ih h).next rfl
        · have inside := (List.getElem?_eq_some_iff.mp h).1
          rw [List.length_append, List.length_singleton] at inside
          obtain rfl : i = (empty.after uses).length := by
            unfold length at last ⊢
            omega
          rw [length, List.getElem?_concat_length] at h
          cases h
          exact ⟨uses, host, [], rfl, by simp, by rw [result], by rw [said]⟩

end Lookups

/-! ## Names, handles and natives -/

theorem get?_eq_some {t : Table η} {handle : Int32} {native : Native η} :
    t.get? handle = some native ↔
      ∃ (i : Nat) (name : String), handle.toInt = i ∧ t.entries[i]? = some (name, native) := by
  have sign : handle < 0 ↔ handle.toInt < 0 := Int32.lt_iff_toInt_lt
  unfold get?
  constructor
  · intro h
    split at h
    · cases h
    · rename_i nonneg
      rw [sign] at nonneg
      split at h
      · rename_i entry at_handle
        cases h
        exact ⟨handle.toInt.toNat, entry.1, by omega, at_handle⟩
      · cases h
  · rintro ⟨i, name, place, entry⟩
    have nonneg : ¬ handle < 0 := by
      rw [sign]
      omega
    rw [if_neg nonneg, place, Int.toNat_natCast, entry]

/-- In a sound table every place is that of its handle. -/
theorem Sound.toInt_place {t : Table η} (sound : t.Sound) {i : Nat} {entry : String × Native η}
    (h : t.entries[i]? = some entry) : (Int32.ofNat i).toInt = i := by
  have inside := (List.getElem?_eq_some_iff.mp h).1
  have room := sound.room
  unfold length maxHandles at room
  exact Int32.toInt_ofNat_of_lt (by omega)

theorem handle?_eq_some {t : Table η} (sound : t.Sound) {name : String} {handle : Int32} :
    t.handle? name = some handle ↔
      ∃ (i : Nat) (native : Native η), handle.toInt = i ∧
        t.entries[i]? = some (name, native) := by
  rw [handle?, Option.map_eq_some_iff]
  constructor
  · rintro ⟨i, index, rfl⟩
    obtain ⟨native, entry⟩ := index?_eq_some index
    exact ⟨i, native, sound.toInt_place entry, entry⟩
  · rintro ⟨i, native, same, entry⟩
    exact ⟨i, index?_of_getElem? sound.nodup entry,
      Int32.toInt_inj.mp ((sound.toInt_place entry).trans same.symm)⟩

/-- The handles of names and those of natives are the numbers from zero up to the length. -/
structure Dense (t : Table η) : Prop where
  distinct : ∀ {name name' handle}, t.handle? name = some handle → t.handle? name' = some handle →
    name = name'
  handles : ∀ handle, (∃ name, t.handle? name = some handle) ↔
    0 ≤ handle.toInt ∧ handle.toInt < t.length
  natives : ∀ handle, (∃ native, t.get? handle = some native) ↔
    0 ≤ handle.toInt ∧ handle.toInt < t.length

theorem Sound.dense {t : Table η} (sound : t.Sound) : t.Dense := by
  have entry_iff (handle : Int32) :
      (∃ (i : Nat) (name : String) (native : Native η), handle.toInt = i ∧
        t.entries[i]? = some (name, native)) ↔ 0 ≤ handle.toInt ∧ handle.toInt < t.length := by
    constructor
    · rintro ⟨i, name, native, place, entry⟩
      have inside := (List.getElem?_eq_some_iff.mp entry).1
      unfold length
      omega
    · rintro ⟨nonneg, inside⟩
      have inside : handle.toInt.toNat < t.entries.length := by
        unfold length at inside
        omega
      exact ⟨handle.toInt.toNat, _, _, by omega, List.getElem?_eq_getElem inside⟩
  refine ⟨fun {name name' handle} h h' => ?_, fun handle => ?_, fun handle => ?_⟩
  · obtain ⟨i, native, place, entry⟩ := (handle?_eq_some sound).mp h
    obtain ⟨i', native', place', entry'⟩ := (handle?_eq_some sound).mp h'
    obtain rfl : i = i' := by omega
    rw [entry] at entry'
    cases entry'
    rfl
  · rw [← entry_iff]
    simp only [handle?_eq_some sound]
    constructor
    · rintro ⟨name, i, native, placed⟩
      exact ⟨i, name, native, placed⟩
    · rintro ⟨i, name, native, placed⟩
      exact ⟨name, i, native, placed⟩
  · rw [← entry_iff]
    simp only [get?_eq_some]
    constructor
    · rintro ⟨native, i, name, placed⟩
      exact ⟨i, name, native, placed⟩
    · rintro ⟨i, name, native, placed⟩
      exact ⟨native, i, name, placed⟩

section Lookups

variable [Host η]

/-- A name has a handle, and this handle a native, exactly if a lookup gave it both. -/
theorem given_iff {uses : List (Use η)} {name : String} {handle : Int32} {native : Native η} :
    (empty.after uses).handle? name = some handle ∧ (empty.after uses).get? handle = some native ↔
      Given uses name handle native := by
  have sound : (empty.after uses).Sound := sound_empty.after uses
  constructor
  · rintro ⟨has, bound⟩
    obtain ⟨i, native', place, entry⟩ := (handle?_eq_some sound).mp has
    obtain ⟨i', name', place', entry'⟩ := get?_eq_some.mp bound
    obtain rfl : i = i' := by omega
    rw [entry] at entry'
    cases entry'
    obtain rfl : handle = Int32.ofNat i :=
      Int32.toInt_inj.mp (place.trans (sound.toInt_place entry).symm)
    exact given_of_entry entry
  · intro given
    obtain ⟨i, rfl, entry⟩ := given.entry
    have place := sound.toInt_place entry
    exact ⟨(handle?_eq_some sound).mpr ⟨i, native, place, entry⟩,
      get?_eq_some.mpr ⟨i, name, place, entry⟩⟩

/-- What a lookup does. -/
structure Asks (t : Table η) : Prop where
  /-- A name keeps its handle, and the host is not asked for it again. -/
  known : ∀ {name handle} host, t.handle? name = some handle →
    t.resolve name host = ⟨.known handle, none, t, host⟩
  /-- Any other name is asked of the host, however often it was asked before. -/
  asked : ∀ {name} host, t.handle? name = none →
    (t.resolve name host).answer = some (Host.findNative name host).1
  /-- One that is found gets the next handle, if there is one left. -/
  found : ∀ {name} host handle, t.handle? name = none →
    ((t.resolve name host).lookup = .bound handle ↔ (Host.findNative name host).1 ≠ none ∧
      t.length < maxHandles ∧ handle = Int32.ofNat t.length)
  /-- A lookup that fails changes nothing. -/
  failed : ∀ {name host}, (t.resolve name host).lookup = .unknown →
    t.handle? name = none ∧ (t.resolve name host).table = t

theorem asks (t : Table η) : t.Asks where
  known {name handle} host h := by
    obtain ⟨i, index, rfl⟩ := Option.map_eq_some_iff.mp h
    rw [resolve, index]
  asked {name} host h := by
    have new : t.index? name = none := Option.map_eq_none_iff.mp h
    have outcome := resolves name t host
    generalize t.resolve name host = r at outcome ⊢
    cases outcome with
    | known index => rw [new] at index; cases index
    | unknown _ said => rw [said]
    | bound _ said => rw [said]
    | full _ said => rw [said]
  found {name} host handle h := by
    have new : t.index? name = none := Option.map_eq_none_iff.mp h
    have outcome := resolves name t host
    generalize t.resolve name host = r at outcome ⊢
    cases outcome with
    | known index => rw [new] at index; cases index
    | unknown _ said => simp [said]
    | bound _ said room => simp [said, room, eq_comm]
    | full _ said full => simp [said, Nat.not_lt.mpr full]
  failed {name host} h := by
    have outcome := resolves name t host
    generalize t.resolve name host = r at outcome h ⊢
    cases outcome with
    | known => cases h
    | unknown new => exact ⟨Option.map_eq_none_iff.mpr new, rfl⟩
    | bound => cases h
    | full new => exact ⟨Option.map_eq_none_iff.mpr new, rfl⟩

/-- However a table was used, and whatever the host said each time: its handles are the numbers from
zero up to its length, one for each name; a name has the handle that it was given when it was first
found since the table was last emptied, and the handle has the native that was found then; names
without a handle are asked for again. An invocation appends the whole result of the native, or fails
and writes nothing. -/
theorem handles_given (uses : List (Use η)) :
    (empty.after uses).Dense ∧ (empty.after uses).Asks ∧
    (∀ name handle native, (empty.after uses).handle? name = some handle ∧
      (empty.after uses).get? handle = some native ↔ Given uses name handle native) ∧
    ∀ request w host,
      (∃ result, (empty.after uses).Yields request result host ∧
        Appended w result ((empty.after uses).invoke request w host)) ∨
      (∀ result, (empty.after uses).Yields request result host →
        w.limit < w.bytes.length + result.length) ∧
        Failed w ((empty.after uses).invoke request w host) :=
  ⟨(sound_empty.after uses).dense, asks _, fun _ _ _ => given_iff,
    fun request w host => invoke_cases request w _ host⟩

end Lookups

/-- A name that was found keeps its handle when the host forgets it; one that was not found is found
later. -/
example :
    let t : Table Scripted.Catalog := empty.after [.lookup "F" ⟨[]⟩, .lookup "G" ⟨[("G", .echo)]⟩,
      .lookup "F" ⟨[("F", .count)]⟩, .lookup "G" ⟨[]⟩]
    (t.handle? "F", t.handle? "G", t.handle? "H") = (some 1, some 0, none) := by
  decide

/-! ## Handles and natives apart -/

/-- Handles by name and, apart from these, natives by handle. -/
structure Directory (η : Type) where
  handles : String → Option Int32
  natives : List (Native η)

/-- The handles and the natives of a table. -/
def directory (t : Table η) : Directory η := ⟨fun name => t.handle? name, t.entries.map Prod.snd⟩

namespace Directory

def get? (handle : Int32) (d : Directory η) : Option (Native η) :=
  if handle < 0 then none else d.natives[handle.toInt.toNat]?

variable [Host η]

/-- The handle of a name, the directory and the host. What is found is entered among the natives, and
the name among the handles. -/
def resolve (name : String) (d : Directory η) (host : η) : Option Int32 × Directory η × η :=
  match d.handles name with
  | some handle => (some handle, d, host)
  | none =>
    match Host.findNative name host with
    | (none, host) => (none, d, host)
    | (some native, host) =>
      if d.natives.length < maxHandles then
        let handle := Int32.ofNat d.natives.length
        (some handle, ⟨Function.update d.handles name (some handle), d.natives ++ [native]⟩, host)
      else (none, d, host)

def used (u : Use η) (d : Directory η) : Directory η :=
  match u with
  | .lookup name host => (d.resolve name host).2.1
  | .clear => ⟨fun _ => none, []⟩

def after (uses : List (Use η)) (d : Directory η) : Directory η :=
  uses.foldl (fun d u => d.used u) d

end Directory

theorem directory_get? (t : Table η) (handle : Int32) : t.directory.get? handle = t.get? handle := by
  unfold Directory.get? directory get?
  split
  · rfl
  · rw [List.getElem?_map]
    cases t.entries[handle.toInt.toNat]? <;> rfl

theorem directory_entered {t : Table η} {name : String} (new : t.index? name = none)
    (native : Native η) : directory ⟨t.entries ++ [(name, native)]⟩ =
      ⟨Function.update (fun name => t.handle? name) name (some (Int32.ofNat t.length)),
        t.entries.map Prod.snd ++ [native]⟩ := by
  have handles : (fun name' => handle? name' ⟨t.entries ++ [(name, native)]⟩) =
      Function.update (fun name => t.handle? name) name (some (Int32.ofNat t.length)) := by
    funext name'
    by_cases same : name' = name
    · subst same
      unfold index? at new
      rw [Function.update_self, handle?, index?, List.findIdx?_append, new]
      simp [length]
    · rw [Function.update_of_ne same]
      simp [handle?, index?, List.findIdx?_append, Ne.symm same]
  rw [directory, handles, List.map_append]
  rfl

variable [Host η]

theorem directory_resolve (name : String) (t : Table η) (host : η) :
    t.directory.resolve name host = ((t.resolve name host).lookup.handle?,
      (t.resolve name host).table.directory, (t.resolve name host).host) := by
  have outcome := resolves name t host
  generalize t.resolve name host = r at outcome ⊢
  unfold Directory.resolve
  cases outcome with
  | known index => simp [directory, handle?, index, Lookup.handle?]
  | unknown new said => simp [directory, handle?, new, said, Lookup.handle?]
  | bound new said room =>
    rw [directory_entered new]
    unfold length at room
    simp [directory, handle?, new, said, room, length, Lookup.handle?]
  | full new said full =>
    unfold length at full
    simp [directory, handle?, new, said, Nat.not_lt.mpr full, Lookup.handle?]

/-- Handles and natives that are entered one after the other stay those of the table. -/
theorem directory_after (uses : List (Use η)) (t : Table η) :
    t.directory.after uses = (t.after uses).directory := by
  induction uses generalizing t with
  | nil => rfl
  | cons u uses ih =>
    have step : t.directory.used u = (t.used u).directory := by
      cases u with
      | lookup name host => rw [Directory.used, directory_resolve, used]
      | clear => rfl
    rw [after_cons, ← ih, ← step]
    rfl

end HostLink.Native.Table
