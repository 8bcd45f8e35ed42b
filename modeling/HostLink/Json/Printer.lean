import HostLink.Json.Basic

/-!
# HostLink.Json.Printer

Writing a JSON document without blanks.
-/

namespace HostLink.Json

def escapeUnit (n : Nat) : String :=
  let digits := Nat.toDigits 16 n
  "\\u" ++ String.ofList (List.replicate (4 - digits.length) '0' ++ digits)

/-- A piece of a string; quotes, backslashes and control characters are escaped. -/
def Piece.render : Piece → String
  | .char c =>
    if c = '\"' then "\\\""
    else if c = '\\' then "\\\\"
    else if c.toNat < 0x20 then escapeUnit c.toNat
    else c.toString
  | .unit n => escapeUnit n

def Literal.render (literal : Literal) : String :=
  literal.foldl (fun out p => out ++ p.render) "\"" ++ "\""

mutual

def render : Json → String
  | .null => "null"
  | .bool true => "true"
  | .bool false => "false"
  | .number digits => digits
  | .string literal => Literal.render literal
  | .array items => "[" ++ renderItems items ++ "]"
  | .object members => "\x7b" ++ renderMembers members ++ "\x7d"

def renderItems : List Json → String
  | [] => ""
  | [j] => render j
  | j :: rest => render j ++ "," ++ renderItems rest

def renderMembers : List (Literal × Json) → String
  | [] => ""
  | [(k, v)] => Literal.render k ++ ":" ++ render v
  | (k, v) :: rest => Literal.render k ++ ":" ++ render v ++ "," ++ renderMembers rest

end

end HostLink.Json
