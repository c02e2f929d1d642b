/-!
White space, and texts that consist of nothing else.
-/

namespace WorkSchema.Text

/-- The characters with the property of white space. -/
def isWhiteSpace (c : Char) : Bool :=
  ('\t' ≤ c && c ≤ '\r') || c == ' ' || c == '\u0085' || c == '\u00a0' || c == '\u1680' ||
    ('\u2000' ≤ c && c ≤ '\u200a') || c == '\u2028' || c == '\u2029' || c == '\u202f' ||
    c == '\u205f' || c == '\u3000'

def isBlank (text : String) : Bool := text.toList.all isWhiteSpace

/-- The text without white space at its ends. -/
def trim (text : String) : String :=
  let inner := (text.toList.dropWhile isWhiteSpace).reverse.dropWhile isWhiteSpace
  String.ofList inner.reverse

end WorkSchema.Text
