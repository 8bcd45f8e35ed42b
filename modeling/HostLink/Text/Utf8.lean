import HostLink.Bytes

/-!
# HostLink.Text.Utf8

Text as UTF-8 bytes. A byte string is cut into items, each a character or a stretch that is not
one, and both decoders are folds over the items:

* `items`  — the cut. A stretch is as long as the bytes still agree with some character.
* `decode` — strict: the text, or where and how the bytes stop being UTF-8.
* `lossy`  — lenient: one replacement character for each stretch.
* `encode` — the bytes of a text.
* `lastBoundary` — where the bytes of a text can be cut.
-/

namespace HostLink.Utf8

def encode (text : String) : Bytes :=
  text.toList.flatMap String.utf8EncodeChar

/-- A piece of a byte string: a character, or bytes that are none. -/
inductive Item where
  | char (c : Char)
  /-- So many bytes that start a character, followed by one that cannot go on with it. -/
  | invalid (size : Nat)
  /-- So many bytes that start a character at the very end of the bytes. -/
  | incomplete (size : Nat)
  deriving DecidableEq, Repr

/-- A character under way. -/
structure Pending where
  seen : Nat
  /-- How many are still owed after the next one. -/
  owed : Nat
  /-- The least value of the next byte. -/
  low : Nat
  high : Nat
  /-- The bits read so far. -/
  bits : Nat
  deriving DecidableEq, Repr

/-- What a byte does between characters: it is a character, it is in error, or it starts one.
The bounds on the second byte shut out overlong forms, surrogates and values past the last one. -/
def start (b : UInt8) : List Item × Option Pending :=
  let n := b.toNat
  if n < 0x80 then ([.char (Char.ofNat n)], none)
  else if n < 0xC2 then ([.invalid 1], none)
  else if n < 0xE0 then ([], some ⟨1, 0, 0x80, 0xBF, n - 0xC0⟩)
  else if n = 0xE0 then ([], some ⟨1, 1, 0xA0, 0xBF, 0⟩)
  else if n = 0xED then ([], some ⟨1, 1, 0x80, 0x9F, 0xD⟩)
  else if n < 0xF0 then ([], some ⟨1, 1, 0x80, 0xBF, n - 0xE0⟩)
  else if n = 0xF0 then ([], some ⟨1, 2, 0x90, 0xBF, 0⟩)
  else if n < 0xF4 then ([], some ⟨1, 2, 0x80, 0xBF, n - 0xF0⟩)
  else if n = 0xF4 then ([], some ⟨1, 2, 0x80, 0x8F, 4⟩)
  else ([.invalid 1], none)

/-- What a byte does inside a character. One out of bounds ends the stretch and is taken anew. -/
def Pending.step (p : Pending) (b : UInt8) : List Item × Option Pending :=
  let n := b.toNat
  if p.low ≤ n ∧ n ≤ p.high then
    let bits := p.bits * 64 + (n - 0x80)
    match p.owed with
    | 0 => ([.char (Char.ofNat bits)], none)
    | owed + 1 => ([], some ⟨p.seen + 1, owed, 0x80, 0xBF, bits⟩)
  else
    (.invalid p.seen :: (start b).1, (start b).2)

/-- What a byte does. -/
def step : Option Pending → UInt8 → List Item × Option Pending
  | none, b => start b
  | some p, b => p.step b

/-- The items of the bytes, from within a character or from between two. -/
def itemsFrom : Option Pending → Bytes → List Item
  | none, [] => []
  | some p, [] => [.incomplete p.seen]
  | p, b :: bytes =>
    match step p b with
    | (found, p') => found ++ itemsFrom p' bytes

def items (bytes : Bytes) : List Item :=
  itemsFrom none bytes

/-- Where and how bytes stop being UTF-8. -/
inductive Malformed where
  /-- After `index` bytes of text, `size` bytes start a character that the next one breaks off. -/
  | invalid (size index : Nat)
  /-- After `index` bytes of text, the bytes end inside a character. -/
  | incomplete (index : Nat)
  deriving DecidableEq, Repr

def Malformed.message : Malformed → String
  | .invalid size index => s!"invalid utf-8 sequence of {size} bytes from index {index}"
  | .incomplete index => s!"incomplete utf-8 byte sequence from index {index}"

/-- The characters of the items, or the first that is none; `index` bytes came before. -/
def chars : Nat → List Item → Except Malformed (List Char)
  | _, [] => .ok []
  | index, .char c :: rest =>
    match chars (index + c.utf8Size) rest with
    | .ok cs => .ok (c :: cs)
    | .error e => .error e
  | index, .invalid size :: _ => .error (.invalid size index)
  | index, .incomplete _ :: _ => .error (.incomplete index)

/-- The text that the bytes are, or where they stop being one. -/
def decode (bytes : Bytes) : Except Malformed String :=
  match chars 0 (items bytes) with
  | .ok cs => .ok (String.ofList cs)
  | .error e => .error e

def replacement : Char := Char.ofNat 0xFFFD

/-- The character an item is read as when faults are forgiven. -/
def Item.lenient : Item → Char
  | .char c => c
  | .invalid _ => replacement
  | .incomplete _ => replacement

/-- The text of the bytes, with a replacement character for each stretch that is none. -/
def lossy (bytes : Bytes) : String :=
  String.ofList ((items bytes).map Item.lenient)

/-- Whether a cut after `n` bytes of UTF-8 leaves the characters whole: no byte behind it goes on
with one before it. -/
def isBoundary (bytes : Bytes) (n : Nat) : Bool :=
  match bytes[n]? with
  | none => true
  | some b => decide (b < 0x80) || decide (0xC0 ≤ b)

/-- The last place at or before `n` where a cut leaves the characters whole. -/
def lastBoundary (bytes : Bytes) : Nat → Nat
  | 0 => 0
  | n + 1 => if isBoundary bytes (n + 1) then n + 1 else lastBoundary bytes n

end HostLink.Utf8
