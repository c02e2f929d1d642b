import WorkSchema.Text.Unprintable

/-!
Text between double quotes as messages show it. The quote, the backslash and
every character that cannot be seen are escaped, so a message stays on one line
and shows exactly what the text holds.
-/

namespace WorkSchema.Quoted

def hexText (n : Nat) : String := String.ofList (Nat.toDigits 16 n)

/-- A character as it stands between the quotes. -/
def escape (c : Char) : String :=
  match c with
  | '"' => "\\\""
  | '\\' => "\\\\"
  | '\n' => "\\n"
  | '\r' => "\\r"
  | '\t' => "\\t"
  | '\x00' => "\\0"
  | _ => if isUnprintable c then "\\u\x7b" ++ hexText c.toNat ++ "\x7d" else c.toString

def quote (text : String) : String :=
  "\"" ++ String.join (text.toList.map escape) ++ "\""

end WorkSchema.Quoted
