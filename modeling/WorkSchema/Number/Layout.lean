import WorkSchema.Number.Shortest

/-!
How a binary number is written with its shortest digits. The three layouts at
the end are the ones in use: in JSON text, in YAML text and in messages.
-/

namespace WorkSchema

/-- The decisions of a number format once the digits are known. -/
structure FloatLayout where
  /-- The least and greatest exponent of the leading digit that are written
  without an exponent; `none` writes every number so. -/
  positional : Option (Int × Int)
  /-- Whether a whole number keeps a zero after its point. -/
  pointZero : Bool
  /-- Whether an exponent above zero has a plus sign. -/
  plusSign : Bool
  nan : String
  infinity : String

namespace FloatLayout

def zeros (n : Nat) : String := String.ofList (List.replicate n '0')

/-- Digits with a point in them, no exponent. -/
def writePositional (layout : FloatLayout) (d : Decimal) : String :=
  let digits := toString d.digits
  match d.exponent with
  | .ofNat k => digits ++ zeros k ++ (if layout.pointZero then ".0" else "")
  | .negSucc k =>
      let places := k + 1
      if places < digits.length then
        let whole := digits.length - places
        String.ofList (digits.toList.take whole) ++ "." ++
          String.ofList (digits.toList.drop whole)
      else "0." ++ zeros (places - digits.length) ++ digits

/-- One digit before the point, and an exponent. -/
def writeScientific (layout : FloatLayout) (d : Decimal) (leading : Int) : String :=
  let digits := (toString d.digits).toList
  let tail := digits.drop 1
  String.ofList (digits.take 1) ++
    (if tail.isEmpty then "" else "." ++ String.ofList tail) ++ "e" ++
    (if layout.plusSign && 0 < leading then "+" else "") ++ toString leading

def writeNonzero (layout : FloatLayout) (d : Decimal) : String :=
  let leading := d.exponent + (toString d.digits).length - 1
  match layout.positional with
  | none => layout.writePositional d
  | some (least, greatest) =>
      if least ≤ leading && leading ≤ greatest then layout.writePositional d
      else layout.writeScientific d leading

def write (layout : FloatLayout) (x : Binary64) : String :=
  if x.isNaN then layout.nan
  else
    let sign := if x.isNegative then "-" else ""
    if x.isInfinite then sign ++ layout.infinity
    else if x.isZero then sign ++ (if layout.pointZero then "0.0" else "0")
    else sign ++ layout.writeNonzero (Decimal.shortest x)

/-- JSON text: positional from `0.00001` up to sixteen digits before the
point, then with a signed exponent. JSON has no text for a NaN or an infinity;
the names stand in messages only. -/
def json : FloatLayout := ⟨some (-5, 15), true, true, "NaN", "inf"⟩

/-- YAML text: as in JSON, but an exponent carries no plus sign. -/
def yaml : FloatLayout := ⟨some (-5, 15), true, false, ".nan", ".inf"⟩

/-- Messages: every digit is written out and whole numbers have no point. -/
def message : FloatLayout := ⟨none, false, false, "NaN", "inf"⟩

end FloatLayout

end WorkSchema
