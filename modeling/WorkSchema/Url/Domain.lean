import WorkSchema.Url.DomainCharacters
import WorkSchema.Url.Punycode

/-!
Domain names as the host of an address. A name is mapped character by
character, split into labels and accepted if every label is. What is returned
keeps letters outside ASCII as they are, so that an address in digits can be
told from a name.
-/

namespace WorkSchema.Domain

open DomainCharacters

def isDeniedAscii (c : Char) : Bool :=
  c.toNat ≤ 32 || c.toNat == 127 || "%#/:<>?@[\\]^|".toList.contains c

/-- A character after mapping: nothing if it is ignored. -/
def mapChar? (c : Char) : Option (List Char) :=
  if c.toNat < 128 then some [c.toLower]
  else if ignored.contains c then some []
  else if disallowed.contains c then none
  else some ((asciiReplacement? c).getD [c])

def mapChars? : List Char → Option (List Char)
  | [] => some []
  | c :: rest => do
      let first ← mapChar? c
      let tail ← mapChars? rest
      some (first ++ tail)

def splitLabels : List Char → List (List Char)
  | [] => [[]]
  | c :: rest =>
      match splitLabels rest with
      | label :: labels => if c = '.' then [] :: label :: labels else (c :: label) :: labels
      | [] => [[c]]

/-- The longest label whose encoded form is read, in characters. -/
def maxEncodedLength : Nat := 2000

/-- A label in its written form. An encoded label must hold a character outside
ASCII, and none that mapping would have changed. -/
def decodeLabel? (label : List Char) : Option (List Char) :=
  if "xn--".toList.isPrefixOf label then do
    let encoded := label.drop 4
    if encoded.isEmpty ∨ maxEncodedLength < encoded.length ∨
        encoded.any (fun c => 128 ≤ c.toNat) then none
    else
      let decoded ← Punycode.decode? encoded
      let unchanged (c : Char) : Bool :=
        if c.toNat < 128 then c.toLower == c
        else !(ignored.contains c || disallowed.contains c || mapped.contains c)
      if decoded.all unchanged ∧ decoded.any (fun c => 128 ≤ c.toNat) then some decoded
      else none
  else some label

/-- Whether the joiner between `before`, nearest first, and `after` is at a
place where it changes how letters join. -/
def joinerAllowed (nonJoiner : Bool) (before after : List Char) : Bool :=
  (match before with
    | c :: _ => viramas.contains c
    | [] => false) ||
  (nonJoiner &&
    (match before.dropWhile nonspacingMarks.contains with
      | c :: _ => leftJoining.contains c || dualJoining.contains c
      | [] => false) &&
    (match after.dropWhile nonspacingMarks.contains with
      | c :: _ => rightJoining.contains c || dualJoining.contains c
      | [] => false))

def joinersAllowed (before : List Char) : List Char → Bool
  | [] => true
  | c :: rest =>
      (if c = '\u200c' then joinerAllowed true before rest
        else if c = '\u200d' then joinerAllowed false before rest
        else true) && joinersAllowed (c :: before) rest

inductive Direction where
  | left
  | right
  | arabicNumber
  | europeanNumber
  | mark
  | neutral
  deriving DecidableEq

def direction (c : Char) : Direction :=
  if c.toNat < 128 then
    if c.isDigit then .europeanNumber else if c.isAlpha then .left else .neutral
  else if rightToLeft.contains c || arabicLetters.contains c then .right
  else if arabicNumbers.contains c then .arabicNumber
  else if europeanNumbers.contains c then .europeanNumber
  else if nonspacingMarks.contains c then .mark
  else if neutrals.contains c then .neutral
  else .left

/-- The rule for labels of a name that has letters written from right to left:
a label begins with a letter, keeps to the direction of that letter, and ends
with a letter or number. -/
def directionAllowed (label : List Char) : Bool :=
  let directions := label.map direction
  let last? := (directions.reverse.dropWhile (· == .mark)).head?
  match directions.head? with
  | none => true
  | some .left =>
      directions.all (fun d => d != .right && d != .arabicNumber) &&
        (last? == some .left || last? == some .europeanNumber)
  | some .right =>
      directions.all (· != .left) &&
        (last? == some .right || last? == some .europeanNumber || last? == some .arabicNumber) &&
        !(directions.contains .europeanNumber && directions.contains .arabicNumber)
  | some _ => false

def isRightToLeft (label : List Char) : Bool :=
  label.any fun c => direction c == .right || direction c == .arabicNumber

def labelAllowed (label : List Char) : Bool :=
  !label.any isDeniedAscii &&
    (label.head?.map fun c => !marks.contains c).getD true &&
    joinersAllowed [] label

/-- The labels of a domain name in their written form. -/
def labels? (text : List Char) : Option (List (List Char)) := do
  let mapped ← mapChars? text
  let labels ← (splitLabels mapped).mapM decodeLabel?
  if labels.all labelAllowed ∧ (!labels.any isRightToLeft || labels.all directionAllowed) then
    some labels
  else none

end WorkSchema.Domain
