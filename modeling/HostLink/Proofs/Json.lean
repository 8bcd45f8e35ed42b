import HostLink.Json.Printer
import HostLink.Json.Reader

/-!
# HostLink.Proofs.Json

A document that was printed is read back. The reader gives it as it was, but for control characters
in its strings, which are printed as escaped units and read as such (`Json.asRead`); its texts are
the same.

* `readLiteral_render` — a string, up to its closing quote.
* `enough`             — a value, followed by whatever may follow one, within a budget.
* `read?_render`       — a whole document, whose length is budget enough.
-/

namespace HostLink.Json

/-! ## Numbers -/

/-- Digits, at least one. -/
structure Digits (cs : List Char) : Prop where
  some : cs ≠ []
  all : ∀ c ∈ cs, c.isDigit = true

inductive IsWhole : List Char → Prop where
  | zero : IsWhole ['0']
  | digits {cs : List Char} (h : Digits cs) (first : cs.head? ≠ some '0') : IsWhole cs

inductive IsFraction : List Char → Prop where
  | none : IsFraction []
  | digits {cs : List Char} (h : Digits cs) : IsFraction ('.' :: cs)

inductive IsExponent : List Char → Prop where
  | none : IsExponent []
  | plain {e : Char} {cs : List Char} (mark : e = 'e' ∨ e = 'E') (h : Digits cs) :
      IsExponent (e :: cs)
  | signed {e sign : Char} {cs : List Char} (mark : e = 'e' ∨ e = 'E')
      (signs : sign = '+' ∨ sign = '-') (h : Digits cs) : IsExponent (e :: sign :: cs)

inductive IsUnsigned : List Char → Prop where
  | parts {whole fraction exponent : List Char} (w : IsWhole whole) (f : IsFraction fraction)
      (e : IsExponent exponent) : IsUnsigned (whole ++ fraction ++ exponent)

/-- A number as the grammar has it. -/
inductive IsNumber : List Char → Prop where
  | unsigned {cs : List Char} (h : IsUnsigned cs) : IsNumber cs
  | negative {cs : List Char} (h : IsUnsigned cs) : IsNumber ('-' :: cs)

/-- No number goes on here. -/
def Stops (rest : List Char) : Prop :=
  ∀ c ∈ rest.head?, c.isDigit = false ∧ c ≠ '.' ∧ c ≠ 'e' ∧ c ≠ 'E'

theorem readDigits_append {ds rest : List Char} (digits : Digits ds)
    (stop : ∀ c ∈ rest.head?, c.isDigit = false) : readDigits (ds ++ rest) = some (ds, rest) := by
  have nothing : rest.takeWhile Char.isDigit = [] ∧ rest.dropWhile Char.isDigit = rest := by
    cases rest with
    | nil => exact ⟨rfl, rfl⟩
    | cons c rest => simp [stop c rfl]
  have taken : (ds ++ rest).takeWhile Char.isDigit = ds := by
    rw [List.takeWhile_append_of_pos digits.all, nothing.1, List.append_nil]
  have left : (ds ++ rest).dropWhile Char.isDigit = rest := by
    rw [List.dropWhile_append_of_pos digits.all, nothing.2]
  rw [readDigits, taken, left]
  cases ds with
  | nil => exact absurd rfl digits.some
  | cons d ds => rfl

theorem readWhole_append {cs rest : List Char} (whole : IsWhole cs)
    (stop : ∀ c ∈ rest.head?, c.isDigit = false) : readWhole (cs ++ rest) = some (cs, rest) := by
  cases whole with
  | zero =>
    cases rest with
    | nil => rfl
    | cons c rest =>
      have other := stop c rfl
      simp [readWhole, other]
  | digits h first =>
    rw [← readDigits_append h stop]
    cases cs with
    | nil => exact absurd rfl h.some
    | cons d ds =>
      have positive : d ≠ '0' := by simpa using first
      rw [List.cons_append, readWhole]
      simpa using positive

theorem readFraction_append {cs rest : List Char} (fraction : IsFraction cs)
    (stop : ∀ c ∈ rest.head?, c.isDigit = false ∧ c ≠ '.') :
    readFraction (cs ++ rest) = some (cs, rest) := by
  cases fraction with
  | none =>
    cases rest with
    | nil => rfl
    | cons c rest =>
      rw [List.nil_append, readFraction]
      simpa using (stop c rfl).2
  | digits h =>
    rw [List.cons_append, readFraction, readDigits_append h fun c mem => (stop c mem).1]
    rfl

theorem readExponent_append {cs rest : List Char} (exponent : IsExponent cs) (stop : Stops rest) :
    readExponent (cs ++ rest) = some (cs, rest) := by
  have digits {ds : List Char} (h : Digits ds) : readDigits (ds ++ rest) = some (ds, rest) :=
    readDigits_append h fun c mem => (stop c mem).1
  cases exponent with
  | none =>
    cases rest with
    | nil => rfl
    | cons c rest =>
      obtain ⟨-, -, small, large⟩ := stop c rfl
      simp [readExponent, small, large]
  | @plain e ds mark h =>
    cases ds with
    | nil => exact absurd rfl h.some
    | cons d ds =>
      have first : d.isDigit = true := h.all d List.mem_cons_self
      have plus : d ≠ '+' := by
        rintro rfl
        cases first
      have minus : d ≠ '-' := by
        rintro rfl
        cases first
      have read : readDigits (d :: (ds ++ rest)) = some (d :: ds, rest) := digits h
      simp [readExponent, mark, plus, minus, read]
  | signed mark signs h =>
    rcases signs with rfl | rfl <;> simp [readExponent, mark, digits h]

theorem readUnsigned_append {cs rest : List Char} (number : IsUnsigned cs) (stop : Stops rest) :
    readUnsigned (cs ++ rest) = some (cs, rest) := by
  obtain ⟨w, f, e⟩ := number
  rename_i whole fraction exponent
  have behindWhole : ∀ c ∈ (fraction ++ (exponent ++ rest)).head?, c.isDigit = false := by
    cases f with
    | digits => simp
    | none =>
      cases e with
      | none => exact fun c mem => (stop c mem).1
      | plain mark => rcases mark with rfl | rfl <;> simp
      | signed mark => rcases mark with rfl | rfl <;> simp
  have behindFraction : ∀ c ∈ (exponent ++ rest).head?, c.isDigit = false ∧ c ≠ '.' := by
    cases e with
    | none => exact fun c mem => ⟨(stop c mem).1, (stop c mem).2.1⟩
    | plain mark => rcases mark with rfl | rfl <;> simp
    | signed mark => rcases mark with rfl | rfl <;> simp
  rw [List.append_assoc, List.append_assoc, readUnsigned, readWhole_append w behindWhole]
  dsimp only
  rw [readFraction_append f behindFraction]
  dsimp only
  rw [readExponent_append e stop]

theorem IsWhole.head {cs : List Char} (whole : IsWhole cs) :
    ∃ d more, cs = d :: more ∧ d.isDigit = true := by
  cases whole with
  | zero => exact ⟨'0', [], rfl, rfl⟩
  | digits h =>
    cases cs with
    | nil => exact absurd rfl h.some
    | cons d ds => exact ⟨d, ds, rfl, h.all d List.mem_cons_self⟩

theorem IsUnsigned.head {cs : List Char} (number : IsUnsigned cs) :
    ∃ d more, cs = d :: more ∧ d.isDigit = true := by
  obtain ⟨w, f, e⟩ := number
  obtain ⟨d, more, rfl, digit⟩ := w.head
  exact ⟨d, _, rfl, digit⟩

theorem readNumber_append {cs rest : List Char} (number : IsNumber cs) (stop : Stops rest) :
    readNumber (cs ++ rest) = some (.number (String.ofList cs), rest) := by
  cases number with
  | negative h =>
    rw [List.cons_append, readNumber, readUnsigned_append h stop]
    rfl
  | unsigned h =>
    obtain ⟨d, more, rfl, digit⟩ := h.head
    have positive : d ≠ '-' := by
      rintro rfl
      cases digit
    have read : readUnsigned (d :: (more ++ rest)) = some (d :: more, rest) :=
      readUnsigned_append h stop
    rw [List.cons_append, readNumber, read]
    · rfl
    · simpa using positive

/-! ## Strings -/

/-- A piece as the reader finds it: a control character has been escaped. -/
def Piece.asRead : Piece → Piece
  | .char c => if c.toNat < 0x20 then .unit c.toNat else .char c
  | .unit n => .unit n

/-- The units of a string have 16 bits. -/
def Literal.Written (literal : Literal) : Prop := ∀ n, .unit n ∈ literal → n < 0x10000

def Literal.asRead (literal : Literal) : Literal := literal.map Piece.asRead

theorem hexValue?_digitChar : ∀ d < 16, hexValue? (Nat.digitChar d) = some d := by decide

/-- A unit is escaped by its four digits. -/
theorem toList_escapeUnit {n : Nat} (short : n < 0x10000) : (escapeUnit n).toList =
    ['\\', 'u', Nat.digitChar (n / 4096), Nat.digitChar (n / 256 % 16),
      Nat.digitChar (n / 16 % 16), Nat.digitChar (n % 16)] := by
  have last (m : Nat) (large : 16 ≤ m) : Nat.toDigits 16 m =
      Nat.toDigits 16 (m / 16) ++ [Nat.digitChar (m % 16)] :=
    Nat.toDigits_of_base_le (by decide) large
  have only (m : Nat) (small : m < 16) : Nat.toDigits 16 m = [Nat.digitChar m] :=
    Nat.toDigits_of_lt_base small
  have padded : List.replicate (4 - (Nat.toDigits 16 n).length) '0' ++ Nat.toDigits 16 n =
      [Nat.digitChar (n / 4096), Nat.digitChar (n / 256 % 16),
        Nat.digitChar (n / 16 % 16), Nat.digitChar (n % 16)] := by
    by_cases one : n < 16
    · have zero : n / 4096 = 0 ∧ n / 256 % 16 = 0 ∧ n / 16 % 16 = 0 ∧ n % 16 = n := by omega
      rw [only n one, zero.1, zero.2.1, zero.2.2.1, zero.2.2.2]
      rfl
    by_cases two : n < 256
    · have zero : n / 4096 = 0 ∧ n / 256 % 16 = 0 ∧ n / 16 % 16 = n / 16 := by omega
      rw [last n (by omega), only (n / 16) (by omega), zero.1, zero.2.1, zero.2.2]
      rfl
    by_cases three : n < 4096
    · have zero : n / 4096 = 0 ∧ n / 256 % 16 = n / 16 / 16 := by omega
      rw [last n (by omega), last (n / 16) (by omega), only (n / 16 / 16) (by omega), zero.1,
        zero.2]
      rfl
    · have high : n / 4096 = n / 16 / 16 / 16 ∧ n / 256 = n / 16 / 16 := by omega
      rw [last n (by omega), last (n / 16) (by omega), last (n / 16 / 16) (by omega),
        only (n / 16 / 16 / 16) (by omega), high.1, high.2]
      rfl
  simp only [escapeUnit, String.toList_append, String.toList_ofList, padded]
  rfl

theorem toList_renderLiteral (literal : Literal) : (Literal.render literal).toList =
    '\"' :: (literal.flatMap (·.render.toList) ++ ['\"']) := by
  have grown (out : String) : (literal.foldl (fun out p => out ++ p.render) out).toList =
      out.toList ++ literal.flatMap (·.render.toList) := by
    induction literal generalizing out with
    | nil => simp
    | cons p rest ih => rw [List.foldl_cons, ih]; simp
  rw [Literal.render, String.toList_append, grown]
  rfl

theorem readLiteral_unit {n : Nat} (short : n < 0x10000) (rest : List Char) :
    readLiteral ((escapeUnit n).toList ++ rest) =
      (readLiteral rest).map fun r => (.unit n :: r.1, r.2) := by
  have value : hexValue4? (Nat.digitChar (n / 4096)) (Nat.digitChar (n / 256 % 16))
      (Nat.digitChar (n / 16 % 16)) (Nat.digitChar (n % 16)) = some n := by
    have digit (d : Nat) (small : d < 16) := hexValue?_digitChar d small
    simp only [hexValue4?, digit (n / 4096) (by omega), digit (n / 256 % 16) (by omega),
      digit (n / 16 % 16) (by omega), digit (n % 16) (by omega)]
    simp only [Option.bind_eq_bind, Option.bind_some, Option.pure_def, Option.some.injEq]
    omega
  rw [toList_escapeUnit short]
  simp only [List.cons_append, List.nil_append, readLiteral, value]
  cases readLiteral rest <;> rfl

theorem readLiteral_piece {p : Piece} (written : ∀ n, p = .unit n → n < 0x10000)
    (rest : List Char) : readLiteral (p.render.toList ++ rest) =
      (readLiteral rest).map fun r => (p.asRead :: r.1, r.2) := by
  cases p with
  | unit n => exact readLiteral_unit (written n rfl) rest
  | char c =>
    by_cases quote : c = '\"'
    · have read : readLiteral ('\\' :: '\"' :: rest) =
          (readLiteral rest).map fun r => (.char '\"' :: r.1, r.2) := by
        rw [readLiteral]
        · cases readLiteral rest <;> rfl
        · simp
      rw [quote]
      exact read
    by_cases slash : c = '\\'
    · have read : readLiteral ('\\' :: '\\' :: rest) =
          (readLiteral rest).map fun r => (.char '\\' :: r.1, r.2) := by
        rw [readLiteral]
        · cases readLiteral rest <;> rfl
        · simp
      rw [slash]
      exact read
    by_cases control : c.toNat < 0x20
    · simp only [Piece.render, Piece.asRead, if_neg quote, if_neg slash, if_pos control]
      exact readLiteral_unit (by omega) rest
    · have single : c.toString.toList = [c] := String.toList_singleton c
      have read : readLiteral (c :: rest) =
          (readLiteral rest).map fun r => (.char c :: r.1, r.2) := by
        rw [readLiteral, if_neg (by simp [control, slash])]
        · cases readLiteral rest <;> rfl
        · exact quote
        · exact fun _ _ _ _ _ eq => absurd eq slash
        · exact fun _ _ eq => absurd eq slash
      simp only [Piece.render, Piece.asRead, if_neg quote, if_neg slash, if_neg control, single]
      exact read

/-- A string is read up to its closing quote. -/
theorem readLiteral_render {literal : Literal} (written : literal.Written) (rest : List Char) :
    readLiteral (literal.flatMap (·.render.toList) ++ '\"' :: rest) =
      some (literal.asRead, rest) := by
  induction literal with
  | nil => rfl
  | cons p pieces ih =>
    have here := readLiteral_piece (p := p) (fun n eq => written n (by simp [eq]))
      (pieces.flatMap (·.render.toList) ++ '\"' :: rest)
    rw [List.flatMap_cons, List.append_assoc, here, ih fun n mem => written n (by simp [mem])]
    rfl

/-! ## Documents -/

mutual

/-- What the reader can find: numbers as the grammar has them, and units of 16 bits. -/
def Sound : Json → Prop
  | .null => True
  | .bool _ => True
  | .number digits => IsNumber digits.toList
  | .string literal => literal.Written
  | .array items => SoundItems items
  | .object members => SoundMembers members

def SoundItems : List Json → Prop
  | [] => True
  | j :: rest => j.Sound ∧ SoundItems rest

def SoundMembers : List (Literal × Json) → Prop
  | [] => True
  | (k, v) :: rest => k.Written ∧ v.Sound ∧ SoundMembers rest

end

mutual

/-- A document as the reader finds it when it was printed. -/
def asRead : Json → Json
  | .null => .null
  | .bool b => .bool b
  | .number digits => .number digits
  | .string literal => .string literal.asRead
  | .array items => .array (asReadItems items)
  | .object members => .object (asReadMembers members)

def asReadItems : List Json → List Json
  | [] => []
  | j :: rest => j.asRead :: asReadItems rest

def asReadMembers : List (Literal × Json) → List (Literal × Json)
  | [] => []
  | (k, v) :: rest => (k.asRead, v.asRead) :: asReadMembers rest

end

/-- What may follow a value. -/
def Follows (rest : List Char) : Prop :=
  ∀ c ∈ rest.head?, c = ',' ∨ c = ']' ∨ c = '\x7d'

theorem Follows.stops {rest : List Char} (follows : Follows rest) : Stops rest := by
  intro c mem
  rcases follows c mem with rfl | rfl | rfl <;> decide

theorem skipBlanks_cons {c : Char} (ink : isBlank c = false) (rest : List Char) :
    skipBlanks (c :: rest) = c :: rest :=
  List.dropWhile_cons_of_neg (by simp [ink])

/-- A number begins with nothing but a digit or a sign. -/
theorem IsNumber.head {cs : List Char} (number : IsNumber cs) : ∃ c more, cs = c :: more ∧
    isBlank c = false ∧ ∀ x : Char, x.isDigit = false → x ≠ '-' → c ≠ x := by
  obtain ⟨c, more, eq, first⟩ : ∃ c more, cs = c :: more ∧ (c.isDigit = true ∨ c = '-') := by
    cases number with
    | unsigned h =>
      obtain ⟨d, more, rfl, digit⟩ := h.head
      exact ⟨d, more, rfl, .inl digit⟩
    | negative h => exact ⟨'-', _, rfl, .inr rfl⟩
  have other (x : Char) (letter : x.isDigit = false) (unsigned : x ≠ '-') : c ≠ x := by
    rintro rfl
    rcases first with digit | minus
    · rw [letter] at digit
      cases digit
    · exact unsigned minus
  refine ⟨c, more, eq, ?_, other⟩
  simp [isBlank, other ' ' rfl (by decide), other '\t' rfl (by decide),
    other '\n' rfl (by decide), other '\r' rfl (by decide)]

/-- Nothing but a number begins as one. -/
theorem readValue_number {cs rest : List Char} (number : IsNumber cs) (follows : Follows rest)
    (budget : Nat) : readValue (budget + 1) (cs ++ rest) =
      some (.number (String.ofList cs), rest) := by
  rw [← readNumber_append number follows.stops]
  obtain ⟨c, more, rfl, ink, other⟩ := number.head
  rw [List.cons_append, readValue, skipBlanks_cons ink]
  split <;> rename_i eq <;> simp only [List.cons.injEq] at eq
  · exact absurd eq.1 (other 'n' rfl (by decide))
  · exact absurd eq.1 (other 't' rfl (by decide))
  · exact absurd eq.1 (other 'f' rfl (by decide))
  · exact absurd eq.1 (other '\"' rfl (by decide))
  · exact absurd eq.1 (other '[' rfl (by decide))
  · exact absurd eq.1 (other '\x7b' rfl (by decide))
  · rfl

/-- A printed value begins with something that is neither blank nor a closing bracket. -/
theorem head_render {j : Json} (sound : j.Sound) :
    ∃ c more, j.render.toList = c :: more ∧ isBlank c = false ∧ c ≠ ']' := by
  cases j with
  | null => exact ⟨_, _, rfl, rfl, by decide⟩
  | bool b => cases b <;> exact ⟨_, _, rfl, rfl, by decide⟩
  | number digits =>
    obtain ⟨c, more, eq, ink, other⟩ := IsNumber.head sound
    exact ⟨c, more, eq, ink, other ']' rfl (by decide)⟩
  | string literal => exact ⟨_, _, toList_renderLiteral literal, rfl, by decide⟩
  | array items =>
    refine ⟨'[', (renderItems items ++ "]").toList, ?_, rfl, by decide⟩
    simp [render]
  | object members =>
    refine ⟨'\x7b', (renderMembers members ++ "\x7d").toList, ?_, rfl, by decide⟩
    simp [render]

theorem readValue_quote (budget : Nat) (cs : List Char) : readValue (budget + 1) ('\"' :: cs) =
    (readLiteral cs).map fun (literal, rest) => (.string literal, rest) := rfl

theorem readValue_bracket (budget : Nat) {c : Char} (ink : isBlank c = false) (other : c ≠ ']')
    (cs : List Char) : readValue (budget + 1) ('[' :: c :: cs) =
      (readItems budget (c :: cs)).map fun (items, rest) => (.array items, rest) := by
  simp only [readValue, skipBlanks_cons (c := '[') rfl, skipBlanks_cons ink]
  split
  · rename_i eq
    exact absurd (List.cons.inj eq).1 other
  · rfl

theorem readValue_brace (budget : Nat) (cs : List Char) :
    readValue (budget + 1) ('\x7b' :: '\"' :: cs) =
      (readMembers budget ('\"' :: cs)).map fun (members, rest) => (.object members, rest) := rfl

/-- What so much of a budget is enough for: to read values, items and members that take half as many
characters. -/
structure Enough (budget : Nat) : Prop where
  value : ∀ (j : Json) (rest : List Char), j.Sound → 2 * j.render.length ≤ budget →
    Follows rest → readValue budget (j.render.toList ++ rest) = some (j.asRead, rest)
  items : ∀ (j : Json) (items : List Json) (rest : List Char), SoundItems (j :: items) →
    2 * (renderItems (j :: items)).length + 1 ≤ budget →
    readItems budget ((renderItems (j :: items)).toList ++ ']' :: rest) =
      some (asReadItems (j :: items), rest)
  members : ∀ (k : Literal) (v : Json) (members : List (Literal × Json)) (rest : List Char),
    SoundMembers ((k, v) :: members) →
    2 * (renderMembers ((k, v) :: members)).length + 1 ≤ budget →
    readMembers budget ((renderMembers ((k, v) :: members)).toList ++ '\x7d' :: rest) =
      some (asReadMembers ((k, v) :: members), rest)

variable {budget : Nat}

theorem Enough.array (enough : Enough budget) (items : List Json) (rest : List Char)
    (sound : SoundItems items) (short : 2 * (Json.array items).render.length ≤ budget + 1) :
    readValue (budget + 1) ((Json.array items).render.toList ++ rest) =
      some (.array (asReadItems items), rest) := by
  cases items with
  | nil => rfl
  | cons j items =>
    have size : (Json.array (j :: items)).render.length =
        (renderItems (j :: items)).length + 2 := by
      have brackets : "[".length = 1 ∧ "]".length = 1 := ⟨rfl, rfl⟩
      simp only [render, String.length_append]
      omega
    have text : (Json.array (j :: items)).render.toList ++ rest =
        '[' :: ((renderItems (j :: items)).toList ++ ']' :: rest) := by
      simp [render]
    have read := enough.items j items rest sound (by omega)
    obtain ⟨c, more, first, ink, other⟩ := head_render sound.1
    obtain ⟨others, front⟩ : ∃ others, (renderItems (j :: items)).toList = c :: others := by
      cases items <;> simp [renderItems, first]
    rw [front, List.cons_append] at text read
    rw [text, readValue_bracket budget ink other, read]
    rfl

theorem Enough.object (enough : Enough budget) (members : List (Literal × Json))
    (rest : List Char) (sound : SoundMembers members)
    (short : 2 * (Json.object members).render.length ≤ budget + 1) :
    readValue (budget + 1) ((Json.object members).render.toList ++ rest) =
      some (.object (asReadMembers members), rest) := by
  cases members with
  | nil => rfl
  | cons member members =>
    obtain ⟨k, v⟩ := member
    have size : (Json.object ((k, v) :: members)).render.length =
        (renderMembers ((k, v) :: members)).length + 2 := by
      have braces : "\x7b".length = 1 ∧ "\x7d".length = 1 := ⟨rfl, rfl⟩
      simp only [render, String.length_append]
      omega
    have text : (Json.object ((k, v) :: members)).render.toList ++ rest =
        '\x7b' :: ((renderMembers ((k, v) :: members)).toList ++ '\x7d' :: rest) := by
      simp [render]
    have read := enough.members k v members rest sound (by omega)
    obtain ⟨others, front⟩ : ∃ others,
        (renderMembers ((k, v) :: members)).toList = '\"' :: others := by
      cases members <;> simp [renderMembers, toList_renderLiteral]
    rw [front, List.cons_append] at text read
    rw [text, readValue_brace, read]
    rfl

theorem Enough.value_succ (enough : Enough budget) (j : Json) (rest : List Char) (sound : j.Sound)
    (short : 2 * j.render.length ≤ budget + 1) (follows : Follows rest) :
    readValue (budget + 1) (j.render.toList ++ rest) = some (j.asRead, rest) := by
  cases j with
  | null => rfl
  | bool b => cases b <;> rfl
  | number digits =>
    have read := readValue_number sound follows budget
    rwa [String.ofList_toList] at read
  | string literal =>
    have text : (Json.string literal).render.toList =
        '\"' :: (literal.flatMap (·.render.toList) ++ ['\"']) := toList_renderLiteral literal
    rw [text, List.cons_append, List.append_assoc, List.singleton_append, readValue_quote,
      readLiteral_render sound]
    rfl
  | array items => exact enough.array items rest sound short
  | object members => exact enough.object members rest sound short

theorem Enough.items_succ (enough : Enough budget) (j : Json) (items : List Json)
    (rest : List Char) (sound : SoundItems (j :: items))
    (short : 2 * (renderItems (j :: items)).length + 1 ≤ budget + 1) :
    readItems (budget + 1) ((renderItems (j :: items)).toList ++ ']' :: rest) =
      some (asReadItems (j :: items), rest) := by
  cases items with
  | nil =>
    have read := enough.value j (']' :: rest) sound.1 (by simpa [renderItems] using short)
      (by simp [Follows])
    rw [readItems, renderItems, read]
    rfl
  | cons k items =>
    have size : (renderItems (j :: k :: items)).length =
        j.render.length + 1 + (renderItems (k :: items)).length := by
      simp only [renderItems, String.length_append]
      rfl
    have text : (renderItems (j :: k :: items)).toList ++ ']' :: rest =
        j.render.toList ++ ',' :: ((renderItems (k :: items)).toList ++ ']' :: rest) := by
      simp [renderItems]
    have read := enough.value j (',' :: ((renderItems (k :: items)).toList ++ ']' :: rest)) sound.1
      (by omega) (by simp [Follows])
    have others := enough.items k items rest sound.2 (by omega)
    have onward : skipBlanks (',' :: ((renderItems (k :: items)).toList ++ ']' :: rest)) =
        ',' :: ((renderItems (k :: items)).toList ++ ']' :: rest) := skipBlanks_cons rfl _
    rw [readItems, text, read]
    simp only [onward, others]
    rfl

theorem Enough.members_succ (enough : Enough budget) (k : Literal) (v : Json)
    (members : List (Literal × Json)) (rest : List Char)
    (sound : SoundMembers ((k, v) :: members))
    (short : 2 * (renderMembers ((k, v) :: members)).length + 1 ≤ budget + 1) :
    readMembers (budget + 1) ((renderMembers ((k, v) :: members)).toList ++ '\x7d' :: rest) =
      some (asReadMembers ((k, v) :: members), rest) := by
  have key (tail : List Char) : readLiteral (k.flatMap (·.render.toList) ++ '\"' :: tail) =
      some (k.asRead, tail) := readLiteral_render sound.1 tail
  have ink {c : Char} (ink : isBlank c = false) (tail : List Char) :
      skipBlanks (c :: tail) = c :: tail := skipBlanks_cons ink tail
  cases members with
  | nil =>
    have size : (renderMembers [(k, v)]).length =
        (Literal.render k).length + 1 + v.render.length := by
      simp only [renderMembers, String.length_append]
      rfl
    have text : (renderMembers [(k, v)]).toList ++ '\x7d' :: rest =
        '\"' :: (k.flatMap (·.render.toList) ++ '\"' :: ':' ::
          (v.render.toList ++ '\x7d' :: rest)) := by
      simp [renderMembers, toList_renderLiteral]
    have read := enough.value v ('\x7d' :: rest) sound.2.1 (by omega) (by simp [Follows])
    rw [text, readMembers]
    simp only [ink (c := '\"') rfl, ink (c := ':') rfl, ink (c := '\x7d') rfl, key, read]
    rfl
  | cons member members =>
    obtain ⟨k', v'⟩ := member
    let others := (renderMembers ((k', v') :: members)).toList ++ '\x7d' :: rest
    have size : (renderMembers ((k, v) :: (k', v') :: members)).length =
        (Literal.render k).length + 1 + v.render.length + 1 +
          (renderMembers ((k', v') :: members)).length := by
      simp only [renderMembers, String.length_append]
      rfl
    have text : (renderMembers ((k, v) :: (k', v') :: members)).toList ++ '\x7d' :: rest =
        '\"' :: (k.flatMap (·.render.toList) ++ '\"' :: ':' ::
          (v.render.toList ++ ',' :: others)) := by
      simp [renderMembers, toList_renderLiteral, others]
    have read := enough.value v (',' :: others) sound.2.1 (by omega) (by simp [Follows])
    have more := enough.members k' v' members rest sound.2.2 (by omega)
    rw [text, readMembers]
    simp only [ink (c := '\"') rfl, ink (c := ':') rfl, ink (c := ',') rfl, key, read, others, more]
    rfl

theorem enough (budget : Nat) : Enough budget := by
  induction budget with
  | zero =>
    refine ⟨fun j rest sound short => ?_, fun _ _ _ _ short => ?_, fun _ _ _ _ _ short => ?_⟩
    · obtain ⟨c, more, eq, -⟩ := head_render sound
      have length : j.render.length = more.length + 1 := by
        rw [← String.length_toList, eq, List.length_cons]
      omega
    · omega
    · omega
  | succ budget ih => exact ⟨ih.value_succ, ih.items_succ, ih.members_succ⟩

/-- A document that was printed is read back, each of its strings as it was escaped. -/
theorem read?_render {j : Json} (sound : j.Sound) : read? j.render = some j.asRead := by
  have read := (enough (2 * j.render.length + 2)).value j [] sound (by omega) (by simp [Follows])
  rw [List.append_nil] at read
  rw [read?, read]
  rfl

/-! ## Texts and whole numbers -/

/-- A unit that is no half of a pair is a character by itself. -/
theorem chars?_unit {n : Nat} (single : n < 0xD800 ∨ 0xE000 ≤ n) (rest : Literal) :
    Literal.chars? (.unit n :: rest) = rest.chars?.map (Char.ofNat n :: ·) := by
  have high : ¬ (0xD800 ≤ n ∧ n < 0xDC00) := by omega
  have low : ¬ (0xDC00 ≤ n ∧ n < 0xE000) := by omega
  have half : ¬ (0xD800 ≤ n ∧ n < 0xE000) := by omega
  cases rest with
  | nil => simp only [Literal.chars?, if_neg half, Option.map_some]
  | cons p rest =>
    cases p with
    | char c => simp only [Literal.chars?, if_neg half]
    | unit m => simp only [Literal.chars?, if_neg high, if_neg low]

theorem chars?_low {n : Nat} (low : 0xDC00 ≤ n ∧ n < 0xE000) (rest : Literal) :
    Literal.chars? (.unit n :: rest) = none := by
  have high : ¬ (0xD800 ≤ n ∧ n < 0xDC00) := by omega
  have half : 0xD800 ≤ n ∧ n < 0xE000 := by omega
  cases rest with
  | nil => simp only [Literal.chars?, if_pos half]
  | cons p rest =>
    cases p with
    | char c => simp only [Literal.chars?, if_pos half]
    | unit m => simp only [Literal.chars?, if_neg high, if_pos low]

/-- The first half of a pair is nothing without the second. -/
theorem chars?_high {n : Nat} (high : 0xD800 ≤ n ∧ n < 0xDC00) {p : Piece} (rest : Literal)
    (other : ∀ m, p = .unit m → ¬ (0xDC00 ≤ m ∧ m < 0xE000)) :
    Literal.chars? (.unit n :: p :: rest) = none := by
  have half : 0xD800 ≤ n ∧ n < 0xE000 := by omega
  cases p with
  | char c => simp only [Literal.chars?, if_pos half]
  | unit m => simp only [Literal.chars?, if_pos high, if_neg (other m rfl)]

theorem Literal.asRead_cons (p : Piece) (rest : Literal) :
    Literal.asRead (p :: rest) = p.asRead :: rest.map Piece.asRead := rfl

theorem Piece.asRead_char (c : Char) : Piece.asRead (.char c) = .char c ∨
    c.toNat < 0x20 ∧ Piece.asRead (.char c) = .unit c.toNat := by
  by_cases control : c.toNat < 0x20
  · exact .inr ⟨control, if_pos control⟩
  · exact .inl (if_neg control)

/-- What is escaped is no half of a pair. -/
theorem chars?_asRead : ∀ literal : Literal, Literal.chars? literal.asRead = literal.chars?
  | [] => rfl
  | .char c :: rest => by
    have later := chars?_asRead rest
    rw [Literal.asRead_cons]
    rcases Piece.asRead_char c with eq | ⟨control, eq⟩
    · rw [eq, Literal.chars?, Literal.chars?, ← later]
      rfl
    · rw [eq, chars?_unit (by omega), Literal.chars?, Char.ofNat_toNat, ← later]
      rfl
  | [.unit n] => rfl
  | .unit n :: p :: rest => by
    have later := chars?_asRead (p :: rest)
    rw [Literal.asRead_cons] at later
    rw [Literal.asRead_cons, List.map_cons, Piece.asRead]
    by_cases low : 0xDC00 ≤ n ∧ n < 0xE000
    · rw [chars?_low low, chars?_low low]
    by_cases high : 0xD800 ≤ n ∧ n < 0xDC00
    · cases p with
      | char c =>
        rw [chars?_high high rest (by simp)]
        refine chars?_high high _ fun m eq => ?_
        rcases Piece.asRead_char c with same | ⟨control, unit⟩
        · rw [same] at eq
          cases eq
        · rw [unit] at eq
          cases eq
          omega
      | unit m =>
        have last := chars?_asRead rest
        by_cases second : 0xDC00 ≤ m ∧ m < 0xE000
        · simp only [Piece.asRead, Literal.chars?, if_pos high, if_pos second, ← last]
          rfl
        · have other (k : Nat) (eq : Piece.unit m = .unit k) : ¬ (0xDC00 ≤ k ∧ k < 0xE000) := by
            cases eq
            exact second
          rw [chars?_high high rest other]
          exact chars?_high high _ other
    · rw [chars?_unit (by omega), chars?_unit (by omega), later]

/-- Escaping leaves the text of a string as it is. -/
theorem text?_asRead (literal : Literal) : literal.asRead.text? = literal.text? :=
  congrArg (Option.map String.ofList) (chars?_asRead literal)

theorem text?_ofString (text : String) : (Json.ofString text).text? = some text := by
  have chars (cs : List Char) : Literal.chars? (cs.map .char) = some cs := by
    induction cs with
    | nil => rfl
    | cons c cs ih => rw [List.map_cons, Literal.chars?, ih]; rfl
  have read : (Literal.ofString text).text? = some text := by
    rw [Literal.text?, Literal.ofString, chars, Option.map_some, String.ofList_toList]
  exact read

theorem written_ofString (text : String) : (Literal.ofString text).Written := by
  intro n mem
  simp [Literal.ofString] at mem

/-- No number but zero is written with a leading zero. -/
theorem head_toDigits {n : Nat} (positive : 0 < n) : (Nat.toDigits 10 n).head? ≠ some '0' := by
  induction n using Nat.strongRecOn with
  | ind n ih =>
    by_cases small : n < 10
    · have digit : ∀ d < 10, 0 < d → [Nat.digitChar d].head? ≠ some '0' := by decide
      rw [Nat.toDigits_of_lt_base small]
      exact digit n small positive
    · have large : 10 ≤ n := by omega
      have first := ih (n / 10) (by omega) (by omega)
      rw [Nat.toDigits_of_base_le (by decide) large]
      cases front : Nat.toDigits 10 (n / 10) with
      | nil => exact absurd front Nat.toDigits_ne_nil
      | cons d ds => rwa [front] at first

theorem isUnsigned_repr (n : Nat) : IsUnsigned n.repr.toList := by
  have whole : IsWhole (Nat.toDigits 10 n) := by
    cases n with
    | zero => exact .zero
    | succ n =>
      have digits : Digits (Nat.toDigits 10 (n + 1)) :=
        ⟨Nat.toDigits_ne_nil, fun c mem => Nat.isDigit_of_mem_toDigits (by decide) (by decide) mem⟩
      exact .digits digits (head_toDigits (by omega))
  have parts := IsUnsigned.parts whole .none .none
  rw [List.append_nil, List.append_nil] at parts
  rwa [Nat.repr_eq_ofList_toDigits, String.toList_ofList]

theorem sound_ofInt (n : Int) : (Json.ofInt n).Sound := by
  cases n with
  | ofNat n => exact .unsigned (isUnsigned_repr n)
  | negSucc n =>
    have text : (toString (Int.negSucc n)).toList = '-' :: (n + 1).repr.toList :=
      String.toList_append
    have number : IsNumber (toString (Int.negSucc n)).toList := by
      rw [text]
      exact .negative (isUnsigned_repr (n + 1))
    exact number

end HostLink.Json
