/-!
# HostLink.Json.Basic

JSON documents as they are written. Numbers keep their digits and strings their escaped code
units, so what a document means is decided where it is read: `1.0` is no whole number, and an
escaped half of a surrogate pair is no text but may stand in a value that nobody looks at.

* `Literal.text?` — the text of a string, if it has one.
* `Json.record?`  — the values that a document gives to a list of named fields.
-/

namespace HostLink

/-- A piece of a string between its quotes. -/
inductive Json.Piece where
  | char (c : Char)
  | unit (n : Nat)
  deriving DecidableEq, Repr

abbrev Json.Literal := List Json.Piece

/-- A document or a part of one. -/
inductive Json where
  | null
  | bool (value : Bool)
  | number (digits : String)
  | string (literal : Json.Literal)
  | array (items : List Json)
  | object (members : List (Json.Literal × Json))
  deriving Inhabited

namespace Json

namespace Literal

/-- A text as a string without escapes. -/
def ofString (text : String) : Literal :=
  text.toList.map .char

/-- The characters that pieces stand for: two units that form a surrogate pair are one, and any
other surrogate is none. -/
def chars? : Literal → Option (List Char)
  | [] => some []
  | .char c :: rest => (chars? rest).map (c :: ·)
  | [.unit n] => if 0xD800 ≤ n ∧ n < 0xE000 then none else some [Char.ofNat n]
  | .unit n :: .unit m :: rest =>
    if 0xD800 ≤ n ∧ n < 0xDC00 then
      if 0xDC00 ≤ m ∧ m < 0xE000 then
        (chars? rest).map (Char.ofNat (0x10000 + (n - 0xD800) * 0x400 + (m - 0xDC00)) :: ·)
      else none
    else if 0xDC00 ≤ n ∧ n < 0xE000 then none
    else (chars? (.unit m :: rest)).map (Char.ofNat n :: ·)
  | .unit n :: rest =>
    if 0xD800 ≤ n ∧ n < 0xE000 then none else (chars? rest).map (Char.ofNat n :: ·)

def text? (literal : Literal) : Option String :=
  (chars? literal).map String.ofList

end Literal

def ofInt (n : Int) : Json := .number (toString n)

def ofString (text : String) : Json := .string (.ofString text)

/-- An object with the given members. -/
def ofMembers (members : List (String × Json)) : Json :=
  .object (members.map fun (k, v) => (.ofString k, v))

def bool? : Json → Option Bool
  | .bool b => some b
  | _ => none

def text? : Json → Option String
  | .string literal => literal.text?
  | _ => none

def optionalText? : Json → Option (Option String)
  | .null => some none
  | j => j.text?.map some

/-- A whole number written with digits alone, so without sign, point and exponent. -/
def nat? : Json → Option Nat
  | .number digits => digits.toNat?
  | _ => none

/-- A whole number written with digits alone, perhaps behind a minus sign. -/
def int? : Json → Option Int
  | .number digits => digits.toInt?
  | _ => none

/-- A whole number of at most 32 bits. -/
def u32? (j : Json) : Option UInt32 :=
  match j.nat? with
  | some n => if n < 4294967296 then some (UInt32.ofNat n) else none
  | none => none

/-- A whole number of at most 64 bits. -/
def u64? (j : Json) : Option UInt64 :=
  match j.nat? with
  | some n => if n < 18446744073709551616 then some (UInt64.ofNat n) else none
  | none => none

def items? : Json → Option (List Json)
  | .array items => some items
  | _ => none

/-- The members of an object under their texts; fails when a key is no text. -/
def members? : Json → Option (List (String × Json))
  | .object members => members.mapM fun (k, v) => k.text?.map fun k => (k, v)
  | _ => none

/-- The first member of an object under a name. -/
def get? (name : String) (j : Json) : Option Json :=
  match j.members? with
  | some members => members.lookup name
  | none => none

/-- The values that a document gives to the named fields. An object gives them by name, each at
most once, and may have other members; an array gives them in order and may stop early. -/
def record? (names : List String) : Json → Option (List (String × Json))
  | .array items => if items.length ≤ names.length then some (names.zip items) else none
  | .object members =>
    match (Json.object members).members? with
    | none => none
    | some members =>
      let known := members.filter fun m => names.contains m.1
      if (known.map Prod.fst).Nodup then some known else none
  | _ => none

/-- The value of a field of a record: read from the document, or the default. -/
def field? {α : Type} (fields : List (String × Json)) (name : String) (read : Json → Option α)
    (default : α) : Option α :=
  match fields.lookup name with
  | none => some default
  | some j => read j

end Json

end HostLink
