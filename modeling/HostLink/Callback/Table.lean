import HostLink.Cell.Reader

/-!
# HostLink.Callback.Table

The callbacks that a runtime asked for. It registers each by a record: the name, a NUL, and a
descriptor for each parameter, `01` for a value, `02` and an index for an array, `04` for a text.

* `readRecord` — a record's name and signature.
* `Table.register` — enters a record; one under the same name is replaced.
* `Table.get?` — the signature under a name.
-/

namespace HostLink.Callback

/-- The most parameters that a callback may have. -/
def maxParams : Nat := 32

abbrev Signature := List Kind

/-- The parameter that a descriptor declares, and the bytes behind it. -/
def readKind (name : String) (descriptor : UInt8) (rest : Bytes) : Except Fault (Kind × Bytes) :=
  if descriptor = 0x01 then .ok (.value, rest)
  else if descriptor = 0x02 then
    match Cell.Read.u32 rest with
    | .ok (index, rest) => .ok (.array index, rest)
    | .error e => .error e
  else if descriptor = 0x04 then .ok (.text, rest)
  else .error (.signatureMismatch name (.unknownDescriptor descriptor))

/-- The parameters that the bytes declare, when there is room for so many. -/
def readKinds (name : String) : Nat → Bytes → Except Fault Signature
  | _, [] => .ok []
  | 0, _ :: _ => .error (.signatureMismatch name .tooManyParameters)
  | room + 1, b :: rest =>
    match readKind name b rest with
    | .error e => .error e
    | .ok (kind, rest) =>
      match readKinds name room rest with
      | .error e => .error e
      | .ok kinds => .ok (kind :: kinds)

/-- The length parameter of a kind, unless it names a value of the signature. -/
def badLength? (signature : Signature) : Kind → Option UInt32
  | .array index => if signature[index.toNat]? = some .value then none else some index
  | _ => none

/-- The name and the signature in a record. Every array must name a value as its length. -/
def readRecord (record : Bytes) : Except Fault (String × Signature) :=
  match Cell.Read.text record with
  | .error e => .error e
  | .ok (name, rest) =>
    if name = "" then .error (.protocol .emptyName)
    else
      match readKinds name maxParams rest with
      | .error e => .error e
      | .ok signature =>
        match signature.findSome? (badLength? signature) with
        | some index => .error (.signatureMismatch name (.lengthNotValue index))
        | none => .ok (name, signature)

/-- Puts an entry in the place of the one under the same name, or at the end. -/
def insertEntry (name : String) (signature : Signature) :
    List (String × Signature) → List (String × Signature)
  | [] => [(name, signature)]
  | entry :: rest =>
    if entry.1 = name then (name, signature) :: rest
    else entry :: insertEntry name signature rest

/-- A new name goes to the end; a known one stays in its place. -/
theorem names_insertEntry (name : String) (signature : Signature)
    (entries : List (String × Signature)) : (insertEntry name signature entries).map Prod.fst =
      if name ∈ entries.map Prod.fst then entries.map Prod.fst
      else entries.map Prod.fst ++ [name] := by
  induction entries with
  | nil => rfl
  | cons entry rest ih =>
    by_cases same : entry.1 = name
    · simp [insertEntry, same]
    · simp only [insertEntry, if_neg same, List.map_cons, ih, List.mem_cons, Ne.symm same, false_or]
      split <;> rfl

theorem nodup_insertEntry {entries : List (String × Signature)}
    (nodup : (entries.map Prod.fst).Nodup) (name : String) (signature : Signature) :
    ((insertEntry name signature entries).map Prod.fst).Nodup := by
  rw [names_insertEntry]
  split
  · exact nodup
  · rename_i new
    refine List.nodup_append.mpr ⟨nodup, by simp, fun a mem b single => ?_⟩
    rw [List.mem_singleton.mp single]
    exact fun same => new (same ▸ mem)

/-- Signatures by name, each name at most once. -/
structure Table where
  entries : List (String × Signature)
  distinct : (entries.map Prod.fst).Nodup
  deriving DecidableEq, Repr

namespace Table

/-- The table without entries. -/
def empty : Table := ⟨[], List.nodup_nil⟩

def length (t : Table) : Nat := t.entries.length

def get? (name : String) (t : Table) : Option Signature :=
  t.entries.lookup name

def contains (name : String) (t : Table) : Bool := (t.get? name).isSome

def insert (name : String) (signature : Signature) (t : Table) : Table :=
  ⟨insertEntry name signature t.entries, nodup_insertEntry t.distinct name signature⟩

/-- Enters a record; gives the name with the new table, or a fault and no new table. -/
def register (record : Bytes) (t : Table) : Except Fault (String × Table) :=
  match readRecord record with
  | .ok (name, signature) => .ok (name, t.insert name signature)
  | .error e => .error e

theorem get?_empty (name : String) : empty.get? name = none := rfl

theorem lookup_cons_eq (key other : String) (value : Signature)
    (entries : List (String × Signature)) :
    List.lookup other ((key, value) :: entries) =
      if other = key then some value else entries.lookup other := by
  rw [List.lookup_cons]
  by_cases h : other = key
  · simp [h]
  · simp [h, beq_eq_false_iff_ne.2 h]

theorem lookup_insertEntry (name other : String) (signature : Signature)
    (entries : List (String × Signature)) :
    (insertEntry name signature entries).lookup other =
      if other = name then some signature else entries.lookup other := by
  induction entries with
  | nil => exact lookup_cons_eq name other signature []
  | cons entry rest ih =>
    obtain ⟨key, value⟩ := entry
    by_cases hk : key = name
    · subst hk
      by_cases h : other = key <;> simp [insertEntry, lookup_cons_eq, h]
    · by_cases h : other = key
      · subst h
        simp [insertEntry, hk]
      · simp [insertEntry, lookup_cons_eq, hk, h, ih]

/-- The new signature is found under its name, and every other name finds what it found. -/
theorem get?_insert (name other : String) (signature : Signature) (t : Table) :
    (t.insert name signature).get? other =
      if other = name then some signature else t.get? other :=
  lookup_insertEntry name other signature t.entries

end Table

end HostLink.Callback
