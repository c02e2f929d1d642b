import WorkSchema.Number.Binary64

/-!
The shortest decimal that reads back as a given binary number. All tests are
comparisons of exact fractions; no digit is produced by approximate arithmetic.
-/

namespace WorkSchema

/-- The number `digits * 10 ^ exponent`. -/
structure Decimal where
  digits : Nat
  exponent : Int
  deriving DecidableEq, Repr

namespace Decimal

/-- A positive number with the ends of the interval of reals that round to it,
all three over one denominator. The ends belong to the interval when the
significand is even, because a tie is rounded to even. -/
structure Rounding where
  low : Nat
  value : Nat
  high : Nat
  den : Nat
  closed : Bool

/-- The rounding interval of a finite number, sign aside. The gap below a
power of two is half the gap above it. -/
def Rounding.of (x : Binary64) : Rounding :=
  let m := x.significand
  let below := if x.fraction = 0 ∧ 1 < x.exponentField then 1 else 2
  let closed := m % 2 == 0
  match x.scale - 2 with
  | .ofNat k => ⟨(4 * m - below) <<< k, (4 * m) <<< k, (4 * m + 2) <<< k, 1, closed⟩
  | .negSucc k => ⟨4 * m - below, 4 * m, 4 * m + 2, 1 <<< (k + 1), closed⟩

/-- Powers of ten as a fraction: `10 ^ p` is `up / down`. -/
def tenPower (p : Int) : Nat × Nat :=
  match p with
  | .ofNat k => (powerOfTen k, 1)
  | .negSucc k => (1, powerOfTen (k + 1))

/-- Whether `c * 10 ^ p` lies in the interval. -/
def Rounding.contains (r : Rounding) (c : Nat) (p : Int) : Bool :=
  let (up, down) := tenPower p
  let point := c * up * r.den
  if r.closed then r.low * down ≤ point && point ≤ r.high * down
  else r.low * down < point && point < r.high * down

/-- The exponent of the leading decimal digit of the value. Binary logarithms
give it up to one, and an exact comparison settles the rest. -/
def Rounding.leadingExponent (r : Rounding) : Int :=
  let guess := ((r.value.log2 : Int) - r.den.log2) * 30103 / 100000
  let reaches (k : Int) : Bool :=
    let (up, down) := tenPower k
    up * r.den ≤ r.value * down
  if reaches (guess + 1) then guess + 1
  else if reaches guess then guess
  else guess - 1

/-- The point nearest to the value on the grid of multiples of `10 ^ p`, among
the value's two neighbours there that lie in the interval. A tie goes to the
even multiple. -/
def Rounding.nearest? (r : Rounding) (p : Int) : Option Nat :=
  let (up, down) := tenPower p
  let step := up * r.den
  let target := r.value * down
  let lower := target / step
  match r.contains lower p, r.contains (lower + 1) p with
  | false, false => none
  | true, false => some lower
  | false, true => some (lower + 1)
  | true, true =>
      let twice := 2 * (target % step)
      if twice < step then some lower
      else if step < twice then some (lower + 1)
      else some (lower + lower % 2)

/-- The digits of a finite nonzero number: the coarsest decimal grid with a
point in the rounding interval decides their count. Seventeen digits always
suffice. -/
def shortest (x : Binary64) : Decimal :=
  let r := Rounding.of x
  let top := r.leadingExponent
  let found := (List.range 17).findSome? fun (n : Nat) =>
    (r.nearest? (top - n)).map fun c =>
      if c = powerOfTen (n + 1) then ⟨1, top + 1⟩ else ⟨c, top - n⟩
  found.getD ⟨r.value / r.den, 0⟩

end Decimal

end WorkSchema
