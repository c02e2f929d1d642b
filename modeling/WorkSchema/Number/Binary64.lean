/-!
Floating-point numbers of 64 bits, kept as their bit pattern. Every operation
is exact integer arithmetic on the pattern, so equality, widening of integers
and reading of decimals are open to proof.
-/

namespace WorkSchema

/-- The power `10 ^ n`. -/
def powerOfTen (n : Nat) : Nat := Nat.pow 10 n

/-- A number of the IEEE binary64 format: one sign bit, eleven exponent bits
and fifty-two fraction bits, from the highest bit down. -/
structure Binary64 where
  bits : UInt64
  deriving DecidableEq, Repr

namespace Binary64

/-- The exponent field of infinities and of every NaN. -/
def maxExponent : Nat := 2047

def isNegative (x : Binary64) : Bool := 1 <<< 63 ≤ x.bits.toNat

def exponentField (x : Binary64) : Nat := (x.bits.toNat >>> 52) % 2048

def fraction (x : Binary64) : Nat := x.bits.toNat % (1 <<< 52)

def isNaN (x : Binary64) : Bool := x.exponentField == maxExponent && x.fraction != 0

def isInfinite (x : Binary64) : Bool := x.exponentField == maxExponent && x.fraction == 0

def isFinite (x : Binary64) : Bool := x.exponentField != maxExponent

def isZero (x : Binary64) : Bool := x.exponentField == 0 && x.fraction == 0

/-- Numeric equality: a NaN differs from every number, itself included, and
the two zeros are the same number. -/
def equal (x y : Binary64) : Bool :=
  !x.isNaN && !y.isNaN && (x == y || (x.isZero && y.isZero))

/-- A finite number is `significand * 2 ^ scale` up to its sign. -/
def significand (x : Binary64) : Nat :=
  if x.exponentField = 0 then x.fraction else (1 <<< 52) + x.fraction

def scale (x : Binary64) : Int := (max x.exponentField 1 : Nat) - 1075

/-- The pattern with the given sign and the given bits below it. -/
def ofMagnitude (negative : Bool) (magnitude : Nat) : Binary64 :=
  ⟨UInt64.ofNat ((if negative then 1 <<< 63 else 0) + magnitude)⟩

def zero : Binary64 := ofMagnitude false 0

def infinity (negative : Bool) : Binary64 := ofMagnitude negative (maxExponent <<< 52)

def nan : Binary64 := ofMagnitude false ((maxExponent <<< 52) + (1 <<< 51))

/-- The quotient rounded to the nearest integer, a tie to the even one. -/
def divNearestEven (num den : Nat) : Nat :=
  let quotient := num / den
  let twice := 2 * (num % den)
  if twice < den then quotient
  else if den < twice then quotient + 1
  else quotient + quotient % 2

/-- The integer nearest to `num / den / 2 ^ scale`, a tie to the even one. -/
def scaledNearest (num den : Nat) (scale : Int) : Nat :=
  match scale with
  | .ofNat k => divNearestEven num (den <<< k)
  | .negSucc k => divNearestEven (num <<< (k + 1)) den

/-- Whether `num / den` is at least `2 ^ power`. -/
def atLeastPower (num den : Nat) (power : Int) : Bool :=
  match power with
  | .ofNat k => den <<< k ≤ num
  | .negSucc k => den ≤ num <<< (k + 1)

/-- The number nearest to `num / den`, with the given sign. A tie goes to the
even significand, and what rounds past the largest finite number is infinite.
The scale leaves 53 bits to the significand but never goes below that of the
subnormal numbers; a carry out of the significand lands in the exponent field,
which is where it belongs. -/
def ofRatio (negative : Bool) (num den : Nat) : Binary64 :=
  if num = 0 ∨ den = 0 then ofMagnitude negative 0
  else
    let guess : Int := (num.log2 : Int) - den.log2
    let top := if atLeastPower num den guess then guess else guess - 1
    let scale := max (top - 52) (-1074)
    let magnitude := ((scale + 1074).toNat <<< 52) + scaledNearest num den scale
    if maxExponent <<< 52 ≤ magnitude then infinity negative
    else ofMagnitude negative magnitude

/-- The number nearest to an integer. -/
def ofInt (n : Int) : Binary64 := ofRatio (n < 0) n.natAbs 1

/-- The number nearest to `digits * 10 ^ exponent`. Exponents far outside the
range are settled without building the power: the result is zero or infinite
whatever the digits are. -/
def ofDecimal (negative : Bool) (digits : Nat) (exponent : Int) : Binary64 :=
  if digits = 0 then ofMagnitude negative 0
  else
    let top := (digits.log2 : Int) / 3 + exponent
    if 400 < exponent then infinity negative
    else if top < -400 then ofMagnitude negative 0
    else match exponent with
      | .ofNat k => ofRatio negative (digits * powerOfTen k) 1
      | .negSucc k => ofRatio negative digits (powerOfTen (k + 1))

/-- The exact product of two finite numbers, rounded once. -/
def mul (x y : Binary64) : Binary64 :=
  let negative := x.isNegative != y.isNegative
  let product := x.significand * y.significand
  match x.scale + y.scale with
  | .ofNat k => ofRatio negative (product <<< k) 1
  | .negSucc k => ofRatio negative product (1 <<< (k + 1))

/-- The exact quotient of a finite number by a finite nonzero one, rounded once. -/
def div (x y : Binary64) : Binary64 :=
  let negative := x.isNegative != y.isNegative
  match x.scale - y.scale with
  | .ofNat k => ofRatio negative (x.significand <<< k) y.significand
  | .negSucc k => ofRatio negative x.significand (y.significand <<< (k + 1))

end Binary64

end WorkSchema
