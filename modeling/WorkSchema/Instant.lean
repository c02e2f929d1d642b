import WorkSchema.Text.Digits

/-!
Points in time in the RFC 3339 notation. Reading moves the civil date and time
by the written offset, so an instant is kept in UTC and is written with a `Z`.
An offset is shorter than a day, so the date moves by one day at most.
-/

namespace WorkSchema

structure CivilDate where
  year : Int
  month : Nat
  day : Nat
  deriving DecidableEq, Repr

namespace CivilDate

def isLeapYear (year : Int) : Bool :=
  year % 4 == 0 && (year % 100 != 0 || year % 400 == 0)

def daysInMonth (year : Int) (month : Nat) : Nat :=
  if month = 2 then (if isLeapYear year then 29 else 28)
  else if month = 4 ∨ month = 6 ∨ month = 9 ∨ month = 11 then 30
  else 31

def isValid (date : CivilDate) : Bool :=
  1 ≤ date.month && date.month ≤ 12 &&
    1 ≤ date.day && date.day ≤ daysInMonth date.year date.month

def next (date : CivilDate) : CivilDate :=
  if date.day < daysInMonth date.year date.month then {date with day := date.day + 1}
  else if date.month < 12 then ⟨date.year, date.month + 1, 1⟩
  else ⟨date.year + 1, 1, 1⟩

def previous (date : CivilDate) : CivilDate :=
  if 1 < date.day then {date with day := date.day - 1}
  else if 1 < date.month then
    ⟨date.year, date.month - 1, daysInMonth date.year (date.month - 1)⟩
  else ⟨date.year - 1, 12, 31⟩

end CivilDate

/-- A UTC date and time of day. Second sixty is a leap second; the notation
allows one in every minute. -/
structure Instant where
  date : CivilDate
  minuteOfDay : Nat
  second : Nat
  nanosecond : Nat
  deriving DecidableEq, Repr

namespace Instant

def minutesPerDay : Nat := 1440

/-- The date and minute of day that lie `offset` minutes earlier. -/
def shiftBack (date : CivilDate) (minute : Nat) (offset : Int) : CivilDate × Nat :=
  let moved := (minute : Int) - offset
  if moved < 0 then (date.previous, (moved + minutesPerDay).toNat)
  else if moved < minutesPerDay then (date, moved.toNat)
  else (date.next, (moved - minutesPerDay).toNat)

/-- Reads the character `c`, in any of the given spellings. -/
def skip? (spellings : List Char) : List Char → Option (List Char)
  | c :: rest => if spellings.contains c then some rest else none
  | [] => none

/-- The offset in minutes: a `Z`, or a sign, two hour digits, a colon and two
minute digits. The minus sign proper is a sign too. -/
def offset? : List Char → Option (Int × List Char)
  | 'Z' :: rest | 'z' :: rest => some (0, rest)
  | sign :: rest => do
      let factor : Int ←
        if sign = '+' then some 1
        else if sign = '-' ∨ sign = '\u2212' then some (-1)
        else none
      let (hour, rest) ← Digits.take? 2 rest
      let rest ← skip? [':'] rest
      let (minute, rest) ← Digits.take? 2 rest
      if minute < 60 ∧ hour < 24 then some (factor * (60 * hour + minute), rest) else none
  | [] => none

/-- The fraction of a second in nanoseconds. Digits past the ninth are dropped. -/
def fraction? : List Char → Option (Nat × List Char)
  | '.' :: rest =>
      let digits := rest.takeWhile Char.isDigit
      if digits.isEmpty then none
      else
        let kept := digits.take 9
        let places := kept ++ List.replicate (9 - kept.length) '0'
        some (Digits.value places, rest.drop digits.length)
  | rest => some (0, rest)

def ofChars? (text : List Char) : Option Instant := do
  let (year, rest) ← Digits.take? 4 text
  let rest ← skip? ['-'] rest
  let (month, rest) ← Digits.take? 2 rest
  let rest ← skip? ['-'] rest
  let (day, rest) ← Digits.take? 2 rest
  let rest ← skip? ['T', 't', ' '] rest
  let (hour, rest) ← Digits.take? 2 rest
  let rest ← skip? [':'] rest
  let (minute, rest) ← Digits.take? 2 rest
  let rest ← skip? [':'] rest
  let (second, rest) ← Digits.take? 2 rest
  let (nanosecond, rest) ← fraction? rest
  let (offset, rest) ← offset? rest
  let date : CivilDate := ⟨year, month, day⟩
  if rest.isEmpty ∧ date.isValid ∧ hour < 24 ∧ minute < 60 ∧ second ≤ 60 then
    let (date, minuteOfDay) := shiftBack date (60 * hour + minute) offset
    some ⟨date, minuteOfDay, second, nanosecond⟩
  else none

def ofText? (text : String) : Option Instant := ofChars? text.toList

/-- Four digits; a year outside them has a sign and as many digits as it
takes. -/
def yearChars (year : Int) : List Char :=
  if 0 ≤ year ∧ year ≤ 9999 then Digits.fixed 4 year.toNat
  else
    let digits := (toString year.natAbs).toList
    (if year < 0 then '-' else '+') :: (List.replicate (4 - digits.length) '0' ++ digits)

/-- The shortest of no, three, six and nine digits that holds the fraction. -/
def fractionChars (nanosecond : Nat) : List Char :=
  if nanosecond = 0 then []
  else if nanosecond % 1000000 = 0 then '.' :: Digits.fixed 3 (nanosecond / 1000000)
  else if nanosecond % 1000 = 0 then '.' :: Digits.fixed 6 (nanosecond / 1000)
  else '.' :: Digits.fixed 9 nanosecond

def toChars (t : Instant) : List Char :=
  yearChars t.date.year ++ '-' :: Digits.fixed 2 t.date.month ++ '-' :: Digits.fixed 2 t.date.day ++
    'T' :: Digits.fixed 2 (t.minuteOfDay / 60) ++ ':' :: Digits.fixed 2 (t.minuteOfDay % 60) ++
    ':' :: Digits.fixed 2 t.second ++ fractionChars t.nanosecond ++ ['Z']

def toText (t : Instant) : String := String.ofList t.toChars

end Instant

end WorkSchema
