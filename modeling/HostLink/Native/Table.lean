import HostLink.Cell.Reader
import HostLink.Cell.Writer
import HostLink.Native.Script

/-!
# HostLink.Native.Table

The natives that a runtime has looked up. It looks a native up by name once and then invokes it by
handle. A name gets the next handle when it is first found and keeps it until the table is emptied.

* `Table.resolve` — the handle of a name, asking the host when the name is new.
* `Table.find`    — the native that an invocation is for, with its arguments.
* `Table.append`  — what becomes of its result.
* `Table.invoke`  — runs it by itself and appends its result to a reply.
* `Table.get?`    — the native of a handle.
-/

namespace HostLink.Native

open Cell (Writer)

variable {η : Type}

/-- Names with their natives; an entry's place is its handle. -/
structure Table (η : Type) where
  entries : List (String × Native η)

/-- What became of a lookup. -/
inductive Lookup where
  | known (handle : Int32)
  | bound (handle : Int32)
  /-- The host has no such native, or there is no handle left. -/
  | unknown
  deriving DecidableEq, Repr

def Lookup.handle? : Lookup → Option Int32
  | .known handle => some handle
  | .bound handle => some handle
  | .unknown => none

/-- A lookup with all that it changed. -/
structure Resolution (η : Type) where
  lookup : Lookup
  /-- What the host said, if it was asked. -/
  answer : Option (Option (Native η))
  table : Table η
  host : η

/-- What became of an invocation. -/
structure Invocation (η : Type) where
  /-- How many bytes were appended, or why none were. -/
  result : Except Fault Nat
  writer : Writer
  host : η
  /-- What the native asked of the session's handle. -/
  asked : List Request

def maxHandles : Nat := 2147483648

namespace Table

/-- The table without entries. -/
def empty : Table η := ⟨[]⟩

def length (t : Table η) : Nat := t.entries.length

/-- The place of a name. -/
def index? (name : String) (t : Table η) : Option Nat :=
  t.entries.findIdx? fun entry => entry.1 = name

def get? (handle : Int32) (t : Table η) : Option (Native η) :=
  if handle < 0 then none
  else match t.entries[handle.toInt.toNat]? with
    | some entry => some entry.2
    | none => none

/-- The handle of a name. A new name is asked of the host and bound if it is found. -/
def resolve [Host η] (name : String) (t : Table η) (host : η) : Resolution η :=
  match t.index? name with
  | some i => ⟨.known (Int32.ofNat i), none, t, host⟩
  | none =>
    match Host.findNative name host with
    | (none, host) => ⟨.unknown, some none, t, host⟩
    | (some native, host) =>
      if t.length < maxHandles then
        ⟨.bound (Int32.ofNat t.length), some (some native), ⟨t.entries ++ [(name, native)]⟩, host⟩
      else ⟨.unknown, some (some native), t, host⟩

/-- The native that a request is for, and the arguments; a request is a handle and then these. -/
def find (request : Bytes) (t : Table η) : Except Fault (Native η × Bytes) :=
  match Cell.Read.cell request with
  | .error e => .error e
  | .ok (handle, args) =>
    match t.get? handle with
    | none => .error (.nativeNotFound handle)
    | some native => .ok (native, args)

/-- Appends the whole result of a native, or nothing; tells how many bytes these are. -/
def append (result : Except Fault Bytes) (w : Writer) : Except Fault Nat × Writer :=
  match result with
  | .error e => (.error e, w)
  | .ok result =>
    match w.put (.raw result) with
    | .error e => (.error e, w)
    | .ok w => (.ok result.length, w)

/-- Serves a request, with a native whose own requests are all refused. -/
def invoke (request : Bytes) (w : Writer) (t : Table η) (host : η) : Invocation η :=
  match t.find request with
  | .error e => ⟨.error e, w, host, []⟩
  | .ok (native, args) =>
    let o := (native args host).refuse
    let appended := append o.result w
    ⟨appended.1, appended.2, o.host, o.asked⟩

def describeEntry (entry : (String × Native η) × Nat) : String :=
  Text.quoted entry.1.1 ++ ": " ++ toString entry.2

def describe (t : Table η) : String :=
  "NativeRegistry \x7b handles: \x7b" ++
    String.intercalate ", " (t.entries.zipIdx.map describeEntry) ++ "\x7d \x7d"

end Table

end HostLink.Native
