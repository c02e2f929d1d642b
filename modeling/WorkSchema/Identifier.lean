import WorkSchema.Collection.RankedList

/-!
Identifiers of work item types and categories: numbers of 128 bits, written as
26 digits of a base-32 alphabet that leaves out the letters I, L, O and U.
-/

namespace WorkSchema

/-- What an identifier is of, so that those of types and of categories never
mix. -/
inductive Entity where
  | workItemType
  | category

structure Identifier (entity : Entity) where
  value : BitVec 128
  deriving DecidableEq

abbrev TypeId := Identifier .workItemType
abbrev CategoryId := Identifier .category

inductive IdentifierError where
  | invalidLength
  | invalidCharacter
  deriving DecidableEq, Repr

def IdentifierError.message : IdentifierError → String
  | .invalidLength => "invalid length"
  | .invalidCharacter => "invalid character"

namespace Identifier

variable {entity : Entity}

instance : Ranked (Identifier entity) := ⟨fun id => id.value.toNat⟩

def alphabet : List Char := "0123456789ABCDEFGHJKMNPQRSTVWXYZ".toList

def digit? (c : Char) : Option Nat := alphabet.idxOf? c.toUpper

def digitChar (n : Nat) : Char := alphabet.getD (n % 32) '0'

/-- The digits of a number, `width` of them, from the highest down. -/
def digits : Nat → Nat → List Char
  | 0, _ => []
  | width + 1, n => digits width (n / 32) ++ [digitChar n]

def toText (id : Identifier entity) : String := String.ofList (digits 26 id.value.toNat)

instance : ToString (Identifier entity) := ⟨toText⟩

/-- Reads an identifier in either case. The length is counted in bytes, and
bits above the lowest 128 are dropped. -/
def ofText (text : String) : Except IdentifierError (Identifier entity) :=
  if text.utf8ByteSize ≠ 26 then throw .invalidLength
  else
    match text.toList.mapM digit? with
    | some digits => return ⟨BitVec.ofNat 128 (digits.foldl (fun n d => 32 * n + d) 0)⟩
    | none => throw .invalidCharacter

def ofNat (n : Nat) : Identifier entity := ⟨BitVec.ofNat 128 n⟩

end Identifier

end WorkSchema
