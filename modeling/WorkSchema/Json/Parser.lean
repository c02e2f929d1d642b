import WorkSchema.Format.Source

/-!
Reading JSON text. Every text yields a source; what is wrong with the text
stands in the source at the place where reading stops.
-/

namespace WorkSchema.JsonText

/-- What a reader of part of a text returns: the part, and the text after it or
the fault that stopped it. -/
abbrev Reading := Source × Except Fault (List Char)

def stopAt (fault : Fault) : Reading := (.broken fault, .error fault)

def isBlank (c : Char) : Bool := c == ' ' || c == '\n' || c == '\r' || c == '\t'

def skipBlanks (text : List Char) : List Char := text.dropWhile isBlank

/-- What is wrong at a place where something else was called for. -/
def faultAt (text : List Char) : Fault := if text.isEmpty then .ended else .malformed

/-- The rest of a word such as `null`. -/
def readWord (word : List Char) (value : Source) (text : List Char) : Reading :=
  match word, text with
  | [], rest => (value, .ok rest)
  | w :: word, c :: rest =>
      if w = c then readWord word value rest else stopAt .malformed
  | _ :: _, [] => stopAt .ended

/-- The largest significand that is kept while digits are read. -/
def maxSignificand : Nat := 0xffffffffffffffff

/-- A significand being read. The first digit that would take it past 64 bits
and all digits after it up to the point or the exponent are dropped; those
before the point still count for the scale. -/
structure Significand where
  value : Nat
  scale : Int
  full : Bool

def Significand.push (s : Significand) (beforePoint : Bool) (c : Char) : Significand :=
  let value := 10 * s.value + (c.toNat - '0'.toNat)
  if s.full ∨ maxSignificand < value then
    {s with full := true, scale := if beforePoint then s.scale + 1 else s.scale}
  else {s with value, scale := if beforePoint then s.scale else s.scale - 1}

/-- Ten to a power up to 308, rounded to a binary number. -/
def tenTo (n : Nat) : Binary64 := .ofRatio false (powerOfTen n) 1

/-- A significand times a power of ten, each step rounded by itself. A scale
below the smallest power is taken in two steps or more; `none` is a number
beyond the largest one. -/
def scaled? (x : Binary64) (scale : Int) : Nat → Option Binary64
  | 0 => some x
  | fuel + 1 =>
      if x.isZero then some x
      else if 308 < scale then none
      else if 0 ≤ scale then
        let value := x.mul (tenTo scale.toNat)
        if value.isFinite then some value else none
      else if scale < -308 then scaled? (x.div (tenTo 308)) (scale + 308) fuel
      else some (x.div (tenTo (-scale).toNat))

/-- The binary number for a written one. Four steps take any significand to
zero, so the number of steps does not grow with the exponent. -/
def floatOf? (negative : Bool) (significand : Nat) (scale : Int) : Option Binary64 :=
  (scaled? (Binary64.ofInt significand) scale 4).map fun x =>
    if negative then Binary64.ofMagnitude true x.bits.toNat else x

def floatSource (negative : Bool) (significand : Nat) (scale : Int) : Source :=
  match floatOf? negative significand scale with
  | some x => if h : x.isFinite = true then .number (.float x h) else .unreadable .null
  | none => .unreadable .null

/-- A whole number without point or exponent. Zero with a minus sign and what
exceeds the integer ranges are floats. -/
def wholeSource (negative : Bool) (digits : List Char) : Source :=
  let value : Int := digits.foldl (fun n c => 10 * n + (c.toNat - '0'.toNat)) 0
  let signed := if negative then -value else value
  if h : -0x8000000000000000 ≤ signed ∧ signed < 0x10000000000000000 ∧ ¬(negative ∧ value = 0) then
    .number (.integer signed h.1 h.2.1)
  else
    let s := digits.foldl (fun (s : Significand) c => s.push true c) ⟨0, 0, false⟩
    floatSource negative s.value s.scale

def readExponent (text : List Char) : Except Fault (Int × List Char) :=
  let (negative, digits) := match text with
    | '-' :: rest => (true, rest)
    | '+' :: rest => (false, rest)
    | _ => (false, text)
  let run := digits.takeWhile Char.isDigit
  if run.isEmpty then .error (faultAt digits)
  else
    let value : Int := run.foldl (fun n c => 10 * n + (c.toNat - '0'.toNat)) 0
    .ok (if negative then -value else value, digits.drop run.length)

/-- A number after its sign: digits without a leading zero, then a fraction and
an exponent if they are there. -/
def readNumber (negative : Bool) (text : List Char) : Reading :=
  let whole := match text with
    | '0' :: _ => ['0']
    | _ => text.takeWhile Char.isDigit
  let rest := text.drop whole.length
  let leadingZero := match whole, rest with
    | ['0'], c :: _ => c.isDigit
    | _, _ => false
  if whole.isEmpty then stopAt (faultAt text)
  else if leadingZero then stopAt .malformed
  else
    let s := whole.foldl (fun (s : Significand) c => s.push true c) ⟨0, 0, false⟩
    let withExponent (s : Significand) (rest : List Char) : Reading :=
      match readExponent rest with
      | .error fault => stopAt fault
      | .ok (exponent, rest) => (floatSource negative s.value (s.scale + exponent), .ok rest)
    match rest with
    | '.' :: digits =>
        let run := digits.takeWhile Char.isDigit
        let s := run.foldl (fun (s : Significand) c => s.push false c) {s with full := false}
        match run, digits.drop run.length with
        | [], after => stopAt (faultAt after)
        | _, 'e' :: after | _, 'E' :: after => withExponent s after
        | _, after => (floatSource negative s.value s.scale, .ok after)
    | 'e' :: after | 'E' :: after => withExponent s after
    | _ => (wholeSource negative whole, .ok rest)

def utf8Length (text : List Char) : Nat := text.foldl (fun n c => n + c.utf8Size) 0

/-- Four hexadecimal digits. -/
def readHex (text : List Char) : Except Fault (Nat × List Char) :=
  let digits := text.take 4
  if utf8Length digits < 4 then .error .ended
  else match digits.length, Digits.inBase? 16 digits with
    | 4, some n => .ok (n, text.drop 4)
    | _, _ => .error .malformed

/-- A character given by its code, in two halves if it is above 16 bits. A half
without its other one leaves the string unreadable, which is `none`. -/
def readCode (text : List Char) : Except Fault (Option Char × List Char) := do
  let (code, rest) ← readHex text
  if 0xDC00 ≤ code ∧ code ≤ 0xDFFF then return (none, rest)
  else if code < 0xD800 ∨ 0xDBFF < code then return (some (Char.ofNat code), rest)
  else
    match rest with
    | '\\' :: 'u' :: after =>
        let (low, afterLow) ← readHex after
        if 0xDC00 ≤ low ∧ low ≤ 0xDFFF then
          return (some (Char.ofNat (0x10000 + (code - 0xD800) * 0x400 + (low - 0xDC00))), afterLow)
        else return (none, rest)
    | [] | ['\\'] => return (none, [])
    | _ => return (none, rest)

/-- A string that its text does not close. If it could not be read anyway, that
is the fault met first by a reader. -/
def stopString (readable : Bool) (fault : Fault) : Reading :=
  (if readable then .broken fault else .unreadable (.broken fault), .error fault)

/-- The characters of a string after its opening quote. `readable` tells
whether all of them could be read so far. -/
def readString (chars : List Char) (readable : Bool) : Nat → List Char → Reading
  | 0, _ => stopAt .ended
  | _ + 1, [] => stopString readable .ended
  | _ + 1, '"' :: rest =>
      let value := Source.string (String.ofList chars.reverse)
      (if readable then value else .unreadable value, .ok rest)
  | _ + 1, ['\\'] => stopString readable .ended
  | fuel + 1, '\\' :: 'u' :: rest =>
      match readCode rest with
      | .error fault => stopString readable fault
      | .ok (some c, rest) => readString (c :: chars) readable fuel rest
      | .ok (none, rest) =>
          if rest.isEmpty then stopString readable .ended else readString chars false fuel rest
  | fuel + 1, '\\' :: c :: rest =>
      let escaped? := [('"', '"'), ('\\', '\\'), ('/', '/'), ('b', '\x08'), ('f', '\x0c'),
        ('n', '\n'), ('r', '\r'), ('t', '\t')].lookup c
      match escaped? with
      | some e => readString (e :: chars) readable fuel rest
      | none => stopString readable .malformed
  | fuel + 1, c :: rest =>
      if c.toNat < 32 then stopString readable .malformed
      else readString (c :: chars) readable fuel rest

/-- Collections nested deeper than this are not read. -/
def maxDepth : Nat := 127

def atDepth (depth : Nat) (source : Source) : Source :=
  if maxDepth < depth then .unreadable source else source

mutual

/-- One value. `depth` counts the collections around it. -/
def readValue (depth : Nat) : Nat → List Char → Reading
  | 0, _ => stopAt .ended
  | fuel + 1, text =>
      match skipBlanks text with
      | [] => stopAt .ended
      | 'n' :: rest => readWord "ull".toList .null rest
      | 't' :: rest => readWord "rue".toList (.bool true) rest
      | 'f' :: rest => readWord "alse".toList (.bool false) rest
      | '"' :: rest => readString [] true (rest.length + 1) rest
      | '-' :: rest => readNumber true rest
      | '[' :: rest =>
          let (items, rest) := readItems (depth + 1) true fuel rest
          (atDepth (depth + 1) (.sequence items (stopOf rest)), rest)
      | '\x7b' :: rest =>
          let (members, rest) := readMembers (depth + 1) true fuel rest
          (atDepth (depth + 1) (.mapping members (stopOf rest)), rest)
      | c :: rest => if c.isDigit then readNumber false (c :: rest) else stopAt .malformed
where
  stopOf : Except Fault (List Char) → Option Fault
    | .ok _ => none
    | .error fault => some fault

/-- The items of a sequence up to its closing bracket. -/
def readItems (depth : Nat) (first : Bool) : Nat → List Char →
    List Source × Except Fault (List Char)
  | 0, _ => ([], .error .ended)
  | fuel + 1, text =>
      let item (text : List Char) : List Source × Except Fault (List Char) :=
        match readValue depth fuel text with
        | (item, .error fault) => ([item], .error fault)
        | (item, .ok rest) =>
            let (items, rest) := readItems depth false fuel rest
            (item :: items, rest)
      match first, skipBlanks text with
      | _, ']' :: rest => ([], .ok rest)
      | true, [] => ([], .error .ended)
      | true, c :: rest => item (c :: rest)
      | false, ',' :: rest =>
          match skipBlanks rest with
          | [] => ([], .error .ended)
          | ']' :: _ => ([], .error .malformed)
          | c :: rest => item (c :: rest)
      | false, text => ([], .error (faultAt text))

/-- The members of a mapping up to its closing brace. -/
def readMembers (depth : Nat) (first : Bool) : Nat → List Char →
    List (Source × Source) × Except Fault (List Char)
  | 0, _ => ([], .error .ended)
  | fuel + 1, text =>
      let member (text : List Char) : List (Source × Source) × Except Fault (List Char) :=
        match readString [] true (text.length + 1) text with
        | (name, .error fault) => ([(name, .broken fault)], .error fault)
        | (.unreadable name, .ok _) => ([(.unreadable name, .broken .malformed)], .error .malformed)
        | (name, .ok rest) =>
            match skipBlanks rest with
            | ':' :: rest =>
                match readValue depth fuel rest with
                | (value, .error fault) => ([(name, value)], .error fault)
                | (value, .ok rest) =>
                    let (members, rest) := readMembers depth false fuel rest
                    ((name, value) :: members, rest)
            | rest => ([(name, .broken (faultAt rest))], .error (faultAt rest))
      match first, skipBlanks text with
      | _, '\x7d' :: rest => ([], .ok rest)
      | true, '"' :: rest => member rest
      | true, text => ([], .error (faultAt text))
      | false, ',' :: rest =>
          match skipBlanks rest with
          | '"' :: rest => member rest
          | rest => ([], .error (faultAt rest))
      | false, text => ([], .error (faultAt text))

end

/-- The source of a text, and the fault of what follows it if anything but
blanks does. -/
def parse (text : String) : Source × Option Fault :=
  let chars := text.toList
  match readValue 0 (2 * chars.length + 2) chars with
  | (source, .error fault) => (source, some fault)
  | (source, .ok rest) => (source, if (skipBlanks rest).isEmpty then none else some .malformed)

/-- The JSON value of a text. -/
def parseValue (text : String) : Except Fault Json := do
  let (source, trailing?) := parse text
  let value ← source.toJson
  match trailing? with
  | some fault => throw fault
  | none => return value

end WorkSchema.JsonText
