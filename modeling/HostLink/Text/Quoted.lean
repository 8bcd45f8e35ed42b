import HostLink.Text.Printable

/-!
# HostLink.Text.Quoted

The quoted form of a text, as error messages and descriptions show it: double quotes around it,
short escapes for NUL, tab, line feed, carriage return, the quote and the backslash, and the code
point in hexadecimal for every other character without a shape of its own.
-/

namespace HostLink.Text

def quoteChar (c : Char) : String :=
  if c = '\x00' then "\\0"
  else if c = '\t' then "\\t"
  else if c = '\n' then "\\n"
  else if c = '\r' then "\\r"
  else if c = '\"' then "\\\""
  else if c = '\\' then "\\\\"
  else if isPrintable c then c.toString
  else "\\u\x7b" ++ String.ofList (Nat.toDigits 16 c.toNat) ++ "\x7d"

def quoted (text : String) : String :=
  "\"" ++ String.join (text.toList.map quoteChar) ++ "\""

def upperHexDigit (n : Nat) : Char :=
  if n < 10 then Char.ofNat (48 + n) else Char.ofNat (55 + n)

/-- A byte as two hexadecimal digits in upper case behind `0x`. -/
def hexByte (b : UInt8) : String :=
  "0x" ++ String.ofList [upperHexDigit (b.toNat / 16), upperHexDigit (b.toNat % 16)]

end HostLink.Text
