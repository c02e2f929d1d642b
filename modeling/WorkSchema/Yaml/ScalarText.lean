import WorkSchema.Yaml.Cursor

/-!
The texts of scalars: quoted scalars, plain scalars and blocks. Lines that are
folded join with a blank, and each blank line among them is one line break.
-/

namespace WorkSchema.Yaml

/-- Blanks between two parts of a scalar: on one line, or the first break and
the further ones. -/
structure Gap where
  blanks : List Char := []
  firstBreak : List Char := []
  moreBreaks : List Char := []
  broken : Bool := false

namespace Gap

/-- What the blanks amount to. A single line break is a blank. -/
def text (gap : Gap) : List Char :=
  if gap.broken then
    if gap.firstBreak = ['\n'] then
      if gap.moreBreaks.isEmpty then [' '] else gap.moreBreaks
    else gap.firstBreak ++ gap.moreBreaks
  else gap.blanks

/-- Reads blanks and breaks. Blanks at the start of a further line are dropped;
`tabAllowed` tells where a tab may be one of them. -/
def read? (tabAllowed : Nat → Bool) (gap : Gap) (c : Cursor) : Nat → Option (Gap × Cursor)
  | 0 => some (gap, c)
  | fuel + 1 =>
      if c.isBlank then
        if gap.broken then
          if c.isAt '\t' && !tabAllowed c.column then none
          else read? tabAllowed gap c.step fuel
        else
          let blanks := gap.blanks ++ (c.peek?.map fun char => [char]).getD []
          read? tabAllowed {gap with blanks} c.step fuel
      else if c.isBreak then
        let (lineBreak, c) := c.stepLine
        let gap : Gap :=
          if gap.broken then {gap with moreBreaks := gap.moreBreaks ++ lineBreak}
          else {blanks := [], firstBreak := lineBreak, moreBreaks := [], broken := true}
        read? tabAllowed gap c fuel
      else some (gap, c)

end Gap

/-- Characters that a backslash and a letter stand for. -/
def simpleEscapes : List (Char × Char) :=
  [('0', '\x00'), ('a', '\x07'), ('b', '\x08'), ('t', '\t'), ('\t', '\t'), ('n', '\n'),
    ('v', '\x0b'), ('f', '\x0c'), ('r', '\r'), ('e', '\x1b'), (' ', ' '), ('"', '"'), ('/', '/'),
    ('\\', '\\'), ('N', '\u0085'), ('_', '\u00a0'), ('L', '\u2028'), ('P', '\u2029')]

def escapeWidth? (c : Char) : Option Nat :=
  if c = 'x' then some 2 else if c = 'u' then some 4 else if c = 'U' then some 8 else none

/-- The character after a backslash, which is not before a break. -/
def readEscape? (c : Cursor) : Option (Char × Cursor) := do
  let kind ← c.peek?
  match simpleEscapes.lookup kind with
  | some char => some (char, c.step)
  | none =>
      let width ← escapeWidth? kind
      let digits := c.step.rest.take width
      let code ← if digits.length = width then Digits.inBase? 16 digits else none
      if code.isValidChar then some (Char.ofNat code, c.step.steps width) else none

/-- The characters of a quoted scalar up to the next blank, break or closing
quote. The flag tells that an escaped line break ended them. -/
def readQuotedRun? (single : Bool) (run : List Char) (c : Cursor) :
    Nat → Option (List Char × Bool × Cursor)
  | 0 => none
  | fuel + 1 =>
      if c.isBlankOrEndAt 0 then some (run, false, c)
      else
        match single, c.rest with
        | true, '\'' :: '\'' :: _ => readQuotedRun? single (run ++ ['\'']) (c.steps 2) fuel
        | true, '\'' :: _ => some (run, false, c)
        | false, '"' :: _ => some (run, false, c)
        | false, '\\' :: _ =>
            if c.step.isBreak then some (run, true, c.step.stepLine.2)
            else do
              let (char, c) ← readEscape? c.step
              readQuotedRun? single (run ++ [char]) c fuel
        | _, char :: _ => readQuotedRun? single (run ++ [char]) c.step fuel
        | _, [] => none

def readQuotedFuel? (single : Bool) (text : List Char) (c : Cursor) :
    Nat → Option (List Char × Cursor)
  | 0 => none
  | fuel + 1 =>
      if c.isDocumentMarker || c.atEnd then none
      else do
        let (run, escapedBreak, c) ← readQuotedRun? single [] c (c.rest.length + 1)
        let text := text ++ run
        if !escapedBreak && c.isAt (if single then '\'' else '"') then some (text, c.step)
        else
          let (gap, c) ← Gap.read? (fun _ => true) {broken := escapedBreak} c c.rest.length
          readQuotedFuel? single (text ++ gap.text) c fuel

/-- The text of a quoted scalar after its opening quote. -/
def readQuoted? (single : Bool) (c : Cursor) : Option (String × Cursor) :=
  (readQuotedFuel? single [] c (c.rest.length + 1)).map fun (text, c) => (String.ofList text, c)

def isFlowIndicator (c : Char) : Bool := ",[]\x7b\x7d".toList.contains c

/-- Whether a plain scalar ends before the cursor's character. -/
def endsPlain (inFlow : Bool) (c : Cursor) : Bool :=
  c.isBlankOrEndAt 0 || (c.isAt ':' && c.isBlankOrEndAt 1) ||
    (inFlow && (c.peek?.map isFlowIndicator).getD false)

/-- A colon in a flow collection that is followed by an indicator. -/
def isStrayColon (inFlow : Bool) (c : Cursor) : Bool :=
  inFlow && c.isAt ':' &&
    ((c.peekAt? 1).map fun char => isFlowIndicator char || char == '?').getD false

def readPlainRun? (inFlow : Bool) (run : List Char) (c : Cursor) :
    Nat → Option (List Char × Cursor)
  | 0 => some (run, c)
  | fuel + 1 =>
      if isStrayColon inFlow c then none
      else if endsPlain inFlow c then some (run, c)
      else match c.peek? with
        | some char => readPlainRun? inFlow (run ++ [char]) c.step fuel
        | none => some (run, c)

/-- The lines of a plain scalar. `gap` stands before the part that is read
next, and is dropped if no part follows. -/
def readPlainFuel? (inFlow : Bool) (margin : Nat) (text : List Char) (gap : Gap) (c : Cursor) :
    Nat → Option (List Char × Bool × Cursor)
  | 0 => some (text, gap.broken, c)
  | fuel + 1 =>
      if c.isDocumentMarker || c.isAt '#' then some (text, gap.broken, c)
      else do
        let (run, next) ← readPlainRun? inFlow [] c c.rest.length
        let (text, gap) := if run.isEmpty then (text, gap) else (text ++ gap.text ++ run, {})
        if !(next.isBlank || next.isBreak) then some (text, gap.broken, next)
        else
          let (gap, next) ← Gap.read? (fun column => margin ≤ column) gap next next.rest.length
          if !inFlow && next.column < margin then some (text, gap.broken, next)
          else readPlainFuel? inFlow margin text gap next fuel

/-- The text of a plain scalar, and whether a line break follows it. Its further
lines are at the margin or to the right of it. -/
def readPlain? (inFlow : Bool) (margin : Nat) (c : Cursor) : Option (String × Bool × Cursor) :=
  (readPlainFuel? inFlow margin [] {} c (c.rest.length + 1)).map fun (text, broken, c) =>
    (String.ofList text, broken, c)

/-- What becomes of the line breaks at the end of a block. -/
inductive Chomping where
  | strip
  | clip
  | keep
  deriving DecidableEq

structure BlockHeader where
  chomping : Chomping := .clip
  increment : Nat := 0

/-- The marks after the indicator of a block, in either order. -/
def readBlockHeader? (c : Cursor) : Option (BlockHeader × Cursor) :=
  let chomping? (c : Cursor) : Option Chomping :=
    if c.isAt '+' then some .keep else if c.isAt '-' then some .strip else none
  let digit? (c : Cursor) : Option Nat :=
    c.peek?.bind fun char => if char.isDigit then some (char.toNat - '0'.toNat) else none
  match chomping? c, digit? c with
  | some chomping, _ =>
      match digit? c.step with
      | some 0 => none
      | some increment => some ({chomping, increment}, c.steps 2)
      | none => some ({chomping}, c.step)
  | none, some 0 => none
  | none, some increment =>
      match chomping? c.step with
      | some chomping => some ({chomping, increment}, c.steps 2)
      | none => some ({increment}, c.step)
  | none, none => some ({}, c)

/-- Blank lines before a line of a block. `margin` is the indentation of the
block, zero while it is not known; the result has the widest indentation met. -/
def readBlockBreaks? (margin widest : Nat) (breaks : List Char) (c : Cursor) :
    Nat → Option (List Char × Nat × Cursor)
  | 0 => some (breaks, widest, c)
  | fuel + 1 =>
      let unindented (c : Cursor) : Bool := margin == 0 || c.column < margin
      let spaces := (c.rest.takeWhile (· == ' ')).length
      let c := if margin = 0 then c.steps spaces else c.steps (min spaces (margin - c.column))
      let widest := max widest c.column
      if unindented c && c.isAt '\t' then none
      else if c.isBreak then
        let (lineBreak, c) := c.stepLine
        readBlockBreaks? margin widest (breaks ++ lineBreak) c fuel
      else some (breaks, widest, c)

/-- The lines of a block. `lineBreak` ends the line before, `breaks` are the
blank lines after it, and `afterBlank` tells that it began with a blank. -/
def readBlockLines? (literal : Bool) (margin : Nat) (text lineBreak breaks : List Char)
    (afterBlank : Bool) (c : Cursor) : Nat → Option (List Char × List Char × List Char × Cursor)
  | 0 => some (text, lineBreak, breaks, c)
  | fuel + 1 =>
      if c.column ≠ margin ∨ c.atEnd then some (text, lineBreak, breaks, c)
      else
        let beginsBlank := c.isBlank
        let joint :=
          if !literal && lineBreak == ['\n'] && !afterBlank && !beginsBlank then
            if breaks.isEmpty then [' '] else breaks
          else lineBreak ++ breaks
        let line := c.rest.takeWhile (!isBreak ·)
        let (lineBreak, next) := (c.steps line.length).stepLine
        match readBlockBreaks? margin 0 [] next (next.rest.length + 1) with
        | none => none
        | some (breaks, _, next) =>
            readBlockLines? literal margin (text ++ joint ++ line) lineBreak breaks beginsBlank next
              fuel

/-- The text of a block after its indicator. `outer` is the column of the
collection around it, if there is one. -/
def readBlock? (literal : Bool) (outer? : Option Nat) (c : Cursor) : Option (String × Cursor) := do
  let (header, c) ← readBlockHeader? c
  let c := c.skipBlanks.skipComment
  if !c.endsLine then none
  else
    let c := c.stepLine.2
    let least := (outer?.map (· + 1)).getD 0
    let given := if header.increment = 0 then 0 else outer?.getD 0 + header.increment
    let (breaks, widest, c) ← readBlockBreaks? given 0 [] c (c.rest.length + 1)
    let margin := if given = 0 then max 1 (max widest least) else given
    let (text, lineBreak, breaks, c) ←
      readBlockLines? literal margin [] [] breaks false c (c.rest.length + 1)
    let tail := match header.chomping with
      | .strip => []
      | .clip => lineBreak
      | .keep => lineBreak ++ breaks
    some (String.ofList (text ++ tail), c)

end WorkSchema.Yaml
