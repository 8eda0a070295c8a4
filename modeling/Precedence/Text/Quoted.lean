import Precedence.Text.Escaped
/-!
# Quoted text

A text between quotes. Quotes and backslashes are marked with a backslash, common controls have a
letter, and other characters without a printed form are shown by their number in hexadecimal.
-/

namespace Precedence.Text

def quoteChar (c : Char) : String :=
  if c = '\x00' then "\\0"
  else if c = '\t' then "\\t"
  else if c = '\n' then "\\n"
  else if c = '\r' then "\\r"
  else if c = '\"' then "\\\""
  else if c = '\\' then "\\\\"
  else if c.toNat < 0x20 || (0x7F ≤ c.toNat && isEscaped c) then
    "\\u\x7b" ++ .ofList (Nat.toDigits 16 c.toNat) ++ "\x7d"
  else c.toString

def quote (text : String) : String := "\"" ++ String.join (text.toList.map quoteChar) ++ "\""

end Precedence.Text
