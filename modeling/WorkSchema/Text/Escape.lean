import WorkSchema.Text.Digits

/-!
Escapes in quoted texts of settings.
-/

namespace WorkSchema.Text

/-- The character that follows a backslash, or that four or eight digits after
its mark stand for. -/
def escaped? : List Char → Option (Char × List Char)
  | 'b' :: rest => some ('\x08', rest)
  | 't' :: rest => some ('\t', rest)
  | 'n' :: rest => some ('\n', rest)
  | 'f' :: rest => some ('\x0c', rest)
  | 'r' :: rest => some ('\r', rest)
  | '"' :: rest => some ('"', rest)
  | '\\' :: rest => some ('\\', rest)
  | kind :: rest => do
      let width ← if kind = 'u' then some 4 else if kind = 'U' then some 8 else none
      let digits := rest.take width
      let code ← if digits.length = width then Digits.inBase? 16 digits else none
      if code.isValidChar then some (Char.ofNat code, rest.drop width) else none
  | [] => none

end WorkSchema.Text
