/-!
Sets of code points given as ranges. The Unicode properties that decide how
text is written are tables of this form.
-/

namespace WorkSchema

/-- A set of code points as inclusive ranges. -/
structure CodeSet where
  ranges : Array (Nat × Nat)

namespace CodeSet

def hexDigit (c : Char) : Nat :=
  if c.isDigit then c.toNat - '0'.toNat else c.toNat - 'a'.toNat + 10

def hexNumber (digits : String) : Nat :=
  digits.toList.foldl (fun n c => 16 * n + hexDigit c) 0

def range? (word : String) : Option (Nat × Nat) :=
  match word.splitOn "-" with
  | [single] => if single.isEmpty then none else some (hexNumber single, hexNumber single)
  | [first, last] => some (hexNumber first, hexNumber last)
  | _ => none

/-- Reads a table of ranges in lowercase hexadecimal with blanks or line
ends between them, such as `ad 300-36f`. -/
def ofTable (table : String) : CodeSet :=
  ⟨(((table.splitOn "\n").flatMap (·.splitOn " ")).filterMap range?).toArray⟩

def contains (set : CodeSet) (c : Char) : Bool :=
  set.ranges.any fun (first, last) => first ≤ c.toNat && c.toNat ≤ last

end CodeSet

end WorkSchema
