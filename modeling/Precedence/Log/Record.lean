import Precedence.Log.Level

namespace Precedence

structure LogRecord where
  level : Level
  area : String
  message : String
  fields : List (String × String) := []
deriving DecidableEq, Repr

namespace LogRecord

def names (record : LogRecord) : List String := "message" :: record.fields.map (·.1)

/-- Control characters that a terminal would obey are shown by name or number. -/
def spelled (c : Char) : String :=
  match c with
  | '\x07' => "\\x07"
  | '\x08' => "\\x08"
  | '\x0C' => "\\x0c"
  | '\x1B' => "\\x1b"
  | '\x7F' => "\\x7f"
  | _ =>
    if 0x80 ≤ c.toNat && c.toNat ≤ 0x9F then
      "\\u\x7b" ++ .ofList (Nat.toDigits 16 c.toNat) ++ "\x7d"
    else c.toString

def line (record : LogRecord) : String :=
  " ".intercalate (record.level.name.toUpper ::
    String.join (record.message.toList.map spelled) ::
    record.fields.map fun (name, value) => name ++ "=" ++ value)

end LogRecord

end Precedence
