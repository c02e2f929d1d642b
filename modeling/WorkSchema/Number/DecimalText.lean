import WorkSchema.Number.Shortest

/-!
Decimal numbers as they are written: an optional sign, digits with at most one
point among or around them, and an optional exponent.
-/

namespace WorkSchema

/-- A written decimal number with its sign apart, so that zero keeps one. -/
structure DecimalText where
  negative : Bool
  decimal : Decimal
  deriving DecidableEq, Repr

namespace DecimalText

def digitsValue (digits : List Char) : Nat :=
  digits.foldl (fun n c => 10 * n + (c.toNat - '0'.toNat)) 0

/-- A sign at the front, true for a minus, and what follows it. -/
def splitSign : List Char → Bool × List Char
  | '-' :: rest => (true, rest)
  | '+' :: rest => (false, rest)
  | text => (false, text)

/-- The exponent after its mark, if there is one; `none` if it has no digits. -/
def exponent? : List Char → Option (Int × List Char)
  | 'e' :: rest | 'E' :: rest =>
      let (negative, digits) := splitSign rest
      let run := digits.takeWhile Char.isDigit
      if run.isEmpty then none
      else
        let value : Int := digitsValue run
        some (if negative then -value else value, digits.drop run.length)
  | rest => some (0, rest)

/-- Reads a whole text. A point needs a digit on at least one side. -/
def ofChars? (text : List Char) : Option DecimalText := do
  let (negative, rest) := splitSign text
  let whole := rest.takeWhile Char.isDigit
  let afterWhole := rest.drop whole.length
  let fraction := match afterWhole with
    | '.' :: digits => digits.takeWhile Char.isDigit
    | _ => []
  let afterFraction := match afterWhole with
    | '.' :: digits => digits.drop fraction.length
    | _ => afterWhole
  let (exponent, afterExponent) ← exponent? afterFraction
  if (whole ++ fraction).isEmpty ∨ !afterExponent.isEmpty then none
  else some ⟨negative, ⟨digitsValue (whole ++ fraction), exponent - fraction.length⟩⟩

/-- The nearest binary number. -/
def toBinary64 (text : DecimalText) : Binary64 :=
  .ofDecimal text.negative text.decimal.digits text.decimal.exponent

end DecimalText

end WorkSchema
