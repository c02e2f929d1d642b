/-!
Reading the Punycode form of a domain label. Each run of digits says how far to
walk over all pairs of a code point and a position before the next insertion.
-/

namespace WorkSchema.Punycode

def digit? (c : Char) : Option Nat :=
  if 'a' ≤ c ∧ c ≤ 'z' then some (c.toNat - 'a'.toNat)
  else if 'A' ≤ c ∧ c ≤ 'Z' then some (c.toNat - 'A'.toNat)
  else if c.isDigit then some (c.toNat - '0'.toNat + 26)
  else none

/-- The least digit that goes on at a place; a digit below it ends a run. -/
def threshold (place bias : Nat) : Nat :=
  if place ≤ bias + 1 then 1 else if bias + 26 ≤ place then 26 else place - bias

/-- Scales a step down until the threshold can take it. -/
def shrink (step places : Nat) : Nat × Nat :=
  if h : 455 < step then shrink (step / 35) (places + 36) else (step, places)
termination_by step
decreasing_by exact Nat.div_lt_self (by omega) (by omega)

/-- The bias after an insertion: small steps lead to low thresholds. -/
def adapt (step length : Nat) (first : Bool) : Nat :=
  let scaled := if first then step / 700 else step / 2
  let (rest, places) := shrink (scaled + scaled / length) 0
  places + 36 * rest / (rest + 38)

structure State where
  output : List Char
  codePoint : Nat
  position : Nat
  bias : Nat
  /-- The position at which the current run of digits began. -/
  runStart : Nat
  weight : Nat
  place : Nat

def State.start (basic : List Char) : State := ⟨basic, 128, 0, 72, 0, 1, 36⟩

/-- Inserts the character that a finished run of digits points at. -/
def State.insert? (s : State) (walked : Nat) : Option State :=
  let length := s.output.length + 1
  let codePoint := s.codePoint + walked / length
  let position := walked % length
  if codePoint.isValidChar then
    some { s with
      output := s.output.take position ++ Char.ofNat codePoint :: s.output.drop position
      codePoint
      position := position + 1
      bias := adapt (walked - s.runStart) length (s.runStart == 0)
      runStart := position + 1
      weight := 1
      place := 36 }
  else none

/-- One digit. Walking past 32 bits is an overflow of the form. -/
def State.step? (s : State) (digit : Nat) : Option State :=
  let walked := s.position + digit * s.weight
  let least := threshold s.place s.bias
  if 0x100000000 ≤ walked ∨ 0x100000000 ≤ s.weight then none
  else if digit < least then s.insert? walked
  else some { s with position := walked, weight := s.weight * (36 - least), place := s.place + 36 }

def readDigits (s : State) : List Char → Option (List Char)
  | [] => if s.place = 36 then some s.output else none
  | c :: rest => do
      let digit ← digit? c
      let next ← s.step? digit
      readDigits next rest

/-- The basic characters stand before the last hyphen, the digits after it. -/
def decode? (label : List Char) : Option (List Char) :=
  let reversed := label.reverse
  let digits := (reversed.takeWhile (· != '-')).reverse
  let basic := ((reversed.dropWhile (· != '-')).drop 1).reverse
  readDigits (.start basic) digits

end WorkSchema.Punycode
