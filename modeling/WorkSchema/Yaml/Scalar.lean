import WorkSchema.Number.DecimalText
import WorkSchema.Text.Digits

/-!
Scalars of YAML text and what they mean. Only a plain scalar can mean anything
but text; the spellings follow the core schema, where a leading zero makes a
run of digits text.
-/

namespace WorkSchema.Yaml

inductive ScalarStyle where
  | plain
  | singleQuoted
  | doubleQuoted
  | literal
  | folded
  deriving DecidableEq, Repr

structure Scalar where
  text : String
  style : ScalarStyle := .plain
  tag? : Option String := none
  deriving DecidableEq, Repr

/-- What a scalar means. A whole number beyond 64 bits but within 128 is
recognised as one, and has no representation. -/
inductive Meaning where
  | null
  | bool (value : Bool)
  | integer (value : Int)
  | float (value : Binary64)
  | string (value : String)
  | oversized
  deriving DecidableEq, Repr

def isNullText (text : String) : Bool := ["null", "Null", "NULL", "~"].contains text

def bool? (text : String) : Option Bool :=
  if ["true", "True", "TRUE"].contains text then some true
  else if ["false", "False", "FALSE"].contains text then some false
  else none

/-- More than one digit with a zero in front, an optional sign aside. Such
digits are no number. -/
def isZeroPadded (text : List Char) : Bool :=
  let digits := match text with
    | '-' :: rest | '+' :: rest => rest
    | _ => text
  match digits with
  | '0' :: c :: rest => (c :: rest).all Char.isDigit
  | _ => false

def naturalIn? (base : Nat) (digits : List Char) : Option Nat :=
  if digits.isEmpty then none else Digits.inBase? base digits

/-- The magnitude behind a base mark, or in decimal digits without one. -/
def magnitude? (text : List Char) : Option Nat :=
  match text with
  | '0' :: 'x' :: digits => naturalIn? 16 digits
  | '0' :: 'o' :: digits => naturalIn? 8 digits
  | '0' :: 'b' :: digits => naturalIn? 2 digits
  | _ => if isZeroPadded text then none else naturalIn? 10 text

def integer? (text : String) : Option Int :=
  match text.toList with
  | '-' :: rest => (magnitude? rest).map fun n => -(n : Int)
  | '+' :: rest | rest => (magnitude? rest).map fun n => (n : Int)

/-- A number that is written as zero or more and fits 64 bits. -/
def unsigned? (text : String) : Option Nat :=
  match text.toList with
  | '-' :: _ => none
  | _ => (integer? text).bind fun n => if n < 0x10000000000000000 then some n.toNat else none

def float? (text : String) : Option Binary64 :=
  let unsigned := match text.toList with
    | '+' :: rest => String.ofList rest
    | _ => text
  if [".inf", ".Inf", ".INF"].contains unsigned then some (.infinity false)
  else if ["-.inf", "-.Inf", "-.INF"].contains text then some (.infinity true)
  else if [".nan", ".NaN", ".NAN"].contains text then some .nan
  else if text.startsWith "+" && (unsigned.startsWith "+" || unsigned.startsWith "-") then none
  else do
    let decimal ← DecimalText.ofChars? unsigned.toList
    let value := decimal.toBinary64
    if value.isFinite then some value else none

/-- What a plain text means when nothing else is known of it. -/
def Meaning.ofPlain (text : String) : Meaning :=
  if text.isEmpty || isNullText text then .null
  else match bool? text with
    | some value => .bool value
    | none =>
      match integer? text with
      | some n =>
          if -0x8000000000000000 ≤ n ∧ n < 0x10000000000000000 then .integer n
          else if -0x80000000000000000000000000000000 ≤ n ∧
              n < 0x100000000000000000000000000000000 then .oversized
          else match float? text with
            | some x => .float x
            | none => .string text
      | none =>
          if isZeroPadded text.toList then .string text
          else match float? text with
            | some x => .float x
            | none => .string text

namespace Scalar

def isPlain (scalar : Scalar) : Bool := scalar.style == .plain

/-- An empty plain scalar, which stands for a part that is not there. -/
def isAbsent (scalar : Scalar) : Bool := scalar.isPlain && scalar.text.isEmpty

def standardTag (name : String) : String := "tag:yaml.org,2002:" ++ name

/-- Whether the scalar may be read as the kind of value that a standard tag
names: it is plain, or a literal block under that very tag. -/
def mayBe (scalar : Scalar) (name : String) : Bool :=
  scalar.isPlain || (scalar.style == .literal && scalar.tag? == some (standardTag name))

/-- The meaning of a scalar where any value may stand; `none` if its tag and its
text disagree. -/
def meaning? (scalar : Scalar) : Option Meaning :=
  let text := scalar.text
  match scalar.tag? with
  | none => some (if scalar.isPlain then .ofPlain text else .string text)
  | some tag =>
      if tag = standardTag "bool" then (bool? text).map .bool
      else if tag = standardTag "int" then
        (integer? text).bind fun n =>
          if -0x8000000000000000 ≤ n ∧ n < 0x10000000000000000 then some (.integer n)
          else if -0x80000000000000000000000000000000 ≤ n ∧
              n < 0x100000000000000000000000000000000 then some .oversized
          else none
      else if tag = standardTag "float" then (float? text).map .float
      else if tag = standardTag "null" then (if isNullText text then some .null else none)
      else if tag.startsWith "!" then none
      else some (.string text)

end Scalar

end WorkSchema.Yaml
