import WorkSchema.Text.Digits

/-!
Network addresses written in digits, as the host of an address may be.
-/

namespace WorkSchema.Address

/-- One part of an address in digits. A `0x` makes it hexadecimal, another
leading zero octal, and an empty rest is zero. -/
def part? (text : List Char) : Option Nat :=
  match text with
  | [] => none
  | '0' :: 'x' :: rest | '0' :: 'X' :: rest => Digits.inBase? 16 rest
  | '0' :: c :: rest => Digits.inBase? 8 (c :: rest)
  | _ => Digits.inBase? 10 text

/-- Whether a name is an address in digits: its last label, an empty one at the
end aside, is a number or at least all digits. -/
def endsInNumber (labels : List (List Char)) : Bool :=
  let isNumber (label : List Char) : Bool :=
    (!label.isEmpty && label.all Char.isDigit) || (part? label).isSome
  match labels.reverse with
  | [] :: label :: _ => isNumber label
  | label :: _ => isNumber label
  | [] => false

/-- An address of four bytes. All parts but the last are one byte, and the last
fills the bytes that remain. -/
def ipv4? (labels : List (List Char)) : Option Nat := do
  let parts := match labels.reverse with
    | [] :: rest => rest.reverse
    | _ => labels
  if 4 < parts.length then none
  else
    let numbers ← parts.mapM part?
    let front := numbers.dropLast
    let last ← numbers.getLast?
    let width := 8 * (4 - front.length)
    if front.all (· < 256) ∧ last < 1 <<< width then
      some ((front.foldl (fun n b => 256 * n + b) 0) <<< width + last)
    else none

/-- The number of bytes in dotted form at the end of a six-group address. No
byte has a leading zero. -/
def dottedBytes? (text : List Char) : Option (List Nat) :=
  let rec groups (current : List Char) : List Char → List (List Char)
    | [] => [current]
    | c :: rest => if c = '.' then current :: groups [] rest else groups (current ++ [c]) rest
  (groups [] text).mapM fun digits =>
    match digits with
    | '0' :: _ :: _ => none
    | [] => none
    | _ => (Digits.inBase? 10 digits).bind fun n => if n < 256 then some n else none

/-- The groups of an address before and after its double colon, if it has one. -/
structure Groups where
  count : Nat
  compressed : Bool

/-- Reads the groups that follow `count` earlier ones. A double colon stands
for at least one group and appears once; the last two groups may be four bytes
in dotted form. -/
def readGroups? (groups : Groups) : Nat → List Char → Option Groups
  | 0, rest => if rest.isEmpty then some groups else none
  | _ + 1, [] => some groups
  | fuel + 1, ':' :: rest =>
      if groups.count = 8 ∨ groups.compressed then none
      else readGroups? ⟨groups.count + 1, true⟩ fuel rest
  | fuel + 1, c :: rest =>
      if groups.count = 8 then none
      else
        let text := c :: rest
        let digits := (text.take 4).takeWhile fun d => (Digits.hexDigit? d).isSome
        match text.drop digits.length with
        | [] => some {groups with count := groups.count + 1}
        | '.' :: _ =>
            if digits.isEmpty ∨ 6 < groups.count then none
            else match dottedBytes? text with
              | some [_, _, _, _] => some {groups with count := groups.count + 2}
              | _ => none
        | ':' :: after =>
            if after.isEmpty then none
            else readGroups? {groups with count := groups.count + 1} fuel after
        | _ => none

/-- Whether the text between brackets is an address of eight groups. -/
def isIpv6 (text : List Char) : Bool :=
  let groups? := match text with
    | ':' :: ':' :: rest => readGroups? ⟨1, true⟩ text.length rest
    | [] | ':' :: _ => none
    | _ => readGroups? ⟨0, false⟩ text.length text
  match groups? with
  | some groups => groups.compressed || groups.count == 8
  | none => false

end WorkSchema.Address
