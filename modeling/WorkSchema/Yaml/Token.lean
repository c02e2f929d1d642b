import WorkSchema.Yaml.Property

/-!
The tokens of a YAML text. Indentation becomes tokens too: a block collection
begins where its first entry stands to the right of the collection around it,
and ends where a token stands to the left of it. A node turns out to be a key
only at the colon behind it, so the place of a possible key is kept until then.
-/

namespace WorkSchema.Yaml

inductive Token where
  | directive (directive : Directive)
  | documentStart
  | documentEnd
  | blockSequenceStart
  | blockMappingStart
  | blockEnd
  | flowSequenceStart
  | flowSequenceEnd
  | flowMappingStart
  | flowMappingEnd
  | blockEntry
  | flowEntry
  | key
  | value
  | alias (name : String)
  | anchor (name : String)
  | tag (tag : TagText)
  | scalar (text : String) (style : ScalarStyle)

/-- A node that is a key if a colon follows on its line. `place` is the number
of tokens before it; a required key must be followed by a colon. -/
structure PossibleKey where
  place : Nat
  required : Bool
  index : Nat
  line : Nat
  column : Nat

/-- How many characters a key on the line of its value may have. -/
def maxImplicitKey : Nat := 1024

/-- A scan up to the cursor. `margins` are the columns of the open block
collections, the innermost first; `outerKeys` has one entry for each open flow
collection, the possible key around it. -/
structure Scan where
  cursor : Cursor
  tokens : List Token := []
  margins : List Nat := []
  key? : Option PossibleKey := none
  outerKeys : List (Option PossibleKey) := []
  keyAllowed : Bool := true

namespace Scan

def inFlow (scan : Scan) : Bool := !scan.outerKeys.isEmpty

def push (scan : Scan) (token : Token) : Scan := {scan with tokens := scan.tokens ++ [token]}

/-- Passes over blanks, comments and breaks. A tab may not stand where a block
entry could begin. -/
def skipSpace (scan : Scan) : Nat → Scan
  | 0 => scan
  | fuel + 1 =>
      let tabAllowed := scan.inFlow || !scan.keyAllowed
      let c := (scan.cursor.skipWhile fun char => char == ' ' || (tabAllowed && char == '\t'))
      let c := c.skipComment
      if c.isBreak then
        let keyAllowed := scan.keyAllowed || !scan.inFlow
        skipSpace {scan with cursor := c.stepLine.2, keyAllowed} fuel
      else {scan with cursor := c}

/-- Whether a possible key can still be one at the cursor. -/
def isStale (c : Cursor) (key : PossibleKey) : Bool :=
  key.line < c.line || key.index + maxImplicitKey < c.index

/-- Forgets possible keys that the cursor has left behind. -/
def dropStaleKeys? (scan : Scan) : Option Scan := do
  let check (key? : Option PossibleKey) : Option (Option PossibleKey) :=
    match key? with
    | some key =>
        if isStale scan.cursor key then (if key.required then none else some none) else some key?
    | none => some none
  let key? ← check scan.key?
  let outerKeys ← scan.outerKeys.mapM check
  some {scan with key?, outerKeys}

def dropKey? (scan : Scan) : Option Scan :=
  match scan.key? with
  | some key => if key.required then none else some {scan with key? := none}
  | none => some scan

/-- Notes that a key may begin at the cursor. -/
def noteKey? (scan : Scan) : Option Scan :=
  if scan.keyAllowed then do
    let c := scan.cursor
    let scan ← scan.dropKey?
    some {scan with key? := some {
      place := scan.tokens.length
      required := !scan.inFlow && scan.margins.head? == some c.column
      index := c.index, line := c.line, column := c.column}}
  else some scan

/-- Closes the block collections for which the test holds. -/
def closeBlocks (close : Nat → Bool) (scan : Scan) : Scan :=
  if scan.inFlow then scan
  else
    let closed := scan.margins.takeWhile close
    { scan with
      tokens := scan.tokens ++ closed.map fun _ => Token.blockEnd
      margins := scan.margins.drop closed.length }

/-- Opens a block collection at a column if it is to the right of the innermost
one. Its first token goes in at the given place. -/
def openBlock (column place : Nat) (token : Token) (scan : Scan) : Scan :=
  let deeper := (scan.margins.head?.map fun margin => decide (margin < column)).getD true
  if scan.inFlow || !deeper then scan
  else
    { scan with
      tokens := scan.tokens.take place ++ token :: scan.tokens.drop place
      margins := column :: scan.margins }

/-- A token of `width` characters after which a key may or may not begin. -/
def take (token : Token) (width : Nat) (keyAllowed : Bool) (scan : Scan) : Scan :=
  {scan with cursor := scan.cursor.steps width, keyAllowed}.push token

def documentMark? (token : Token) (scan : Scan) : Option Scan := do
  let scan ← (scan.closeBlocks fun _ => true).dropKey?
  some (scan.take token 3 false)

def directive? (scan : Scan) : Option Scan := do
  let scan ← (scan.closeBlocks fun _ => true).dropKey?
  let (directive, cursor) ← readDirective? scan.cursor.step
  some ({scan with cursor, keyAllowed := false}.push (.directive directive))

def openFlow? (token : Token) (scan : Scan) : Option Scan := do
  let scan ← scan.noteKey?
  some ({scan with key? := none, outerKeys := scan.key? :: scan.outerKeys}.take token 1 true)

def closeFlow? (token : Token) (scan : Scan) : Option Scan := do
  let scan ← scan.dropKey?
  let scan := match scan.outerKeys with
    | outer :: outerKeys => {scan with key? := outer, outerKeys}
    | [] => scan
  some (scan.take token 1 false)

def flowEntry? (scan : Scan) : Option Scan := do
  let scan ← scan.dropKey?
  some (scan.take .flowEntry 1 true)

def blockEntry? (scan : Scan) : Option Scan :=
  if !scan.inFlow && !scan.keyAllowed then none
  else do
    let scan ← (scan.openBlock scan.cursor.column scan.tokens.length .blockSequenceStart).dropKey?
    some (scan.take .blockEntry 1 true)

/-- The mark of a key that may be any node. -/
def explicitKey? (scan : Scan) : Option Scan :=
  if !scan.inFlow && !scan.keyAllowed then none
  else do
    let scan ← (scan.openBlock scan.cursor.column scan.tokens.length .blockMappingStart).dropKey?
    some (scan.take .key 1 !scan.inFlow)

/-- The colon before a value. The possible key before it becomes a key. -/
def value? (scan : Scan) : Option Scan :=
  match scan.key? with
  | some key =>
      let tokens := scan.tokens.take key.place ++ .key :: scan.tokens.drop key.place
      let scan := {scan with tokens, key? := none}
      some ((scan.openBlock key.column key.place .blockMappingStart).take .value 1 false)
  | none =>
      if !scan.inFlow && !scan.keyAllowed then none
      else
        let scan := scan.openBlock scan.cursor.column scan.tokens.length .blockMappingStart
        some (scan.take .value 1 !scan.inFlow)

/-- A token that its own reader takes from the text, and that may begin a key. -/
def node? (read? : Cursor → Option (Token × Cursor)) (scan : Scan) : Option Scan := do
  let scan ← scan.noteKey?
  let (token, cursor) ← read? scan.cursor
  some ({scan with cursor, keyAllowed := false}.push token)

/-- An anchor or an alias with its name. -/
def anchor? (token : String → Token) (scan : Scan) : Option Scan :=
  scan.node? fun c => (readAnchorName? c.step).map fun (name, c) => (token name, c)

def block? (literal : Bool) (scan : Scan) : Option Scan := do
  let scan ← scan.dropKey?
  let (text, cursor) ← readBlock? literal scan.margins.head? scan.cursor.step
  let style := if literal then .literal else .folded
  some ({scan with cursor, keyAllowed := true}.push (.scalar text style))

def plain? (scan : Scan) : Option Scan := do
  let scan ← scan.noteKey?
  let margin := (scan.margins.head?.map (· + 1)).getD 0
  let (text, broken, cursor) ← readPlain? scan.inFlow margin scan.cursor
  some ({scan with cursor, keyAllowed := broken}.push (.scalar text .plain))

/-- Whether a plain scalar can begin at the cursor. -/
def beginsPlain (scan : Scan) : Bool :=
  let c := scan.cursor
  !(c.isBlankOrEndAt 0 ||
      (c.peek?.map "-?:,[]\x7b\x7d#&*!|>'\"%@\x60".toList.contains).getD true) ||
    (c.isAt '-' && !(c.peekAt? 1 == some ' ' || c.peekAt? 1 == some '\t')) ||
    (!scan.inFlow && (c.isAt '?' || c.isAt ':') && !c.isBlankOrEndAt 1)

def quoted? (single : Bool) (scan : Scan) : Option Scan :=
  let style := if single then .singleQuoted else .doubleQuoted
  scan.node? (fun c => (readQuoted? single c.step).map fun (text, c) => (.scalar text style, c))

/-- Takes the token at the cursor, which is not at the end of the text. -/
def token? (scan : Scan) : Option Scan :=
  let c := scan.cursor
  let marks := scan.inFlow || c.isBlankOrEndAt 1
  if c.column = 0 ∧ c.isAt '%' then scan.directive?
  else if c.isDocumentMarker then
    scan.documentMark? (if c.isAt '-' then .documentStart else .documentEnd)
  else match c.peek? with
    | some '[' => scan.openFlow? .flowSequenceStart
    | some '\x7b' => scan.openFlow? .flowMappingStart
    | some ']' => scan.closeFlow? .flowSequenceEnd
    | some '\x7d' => scan.closeFlow? .flowMappingEnd
    | some ',' => scan.flowEntry?
    | some '*' => scan.anchor? .alias
    | some '&' => scan.anchor? .anchor
    | some '!' => scan.node? fun c => (readTag? scan.inFlow c).map fun (tag, c) => (.tag tag, c)
    | some '\'' => scan.quoted? true
    | some '"' => scan.quoted? false
    | some char =>
        if char = '-' ∧ c.isBlankOrEndAt 1 then scan.blockEntry?
        else if char = '?' ∧ marks then scan.explicitKey?
        else if char = ':' ∧ marks then scan.value?
        else if char = '|' ∧ !scan.inFlow then scan.block? true
        else if char = '>' ∧ !scan.inFlow then scan.block? false
        else if scan.beginsPlain then scan.plain?
        else none
    | none => none

def run? (scan : Scan) : Nat → Option (List Token)
  | 0 => none
  | fuel + 1 => do
      let scan ← (scan.skipSpace (scan.cursor.rest.length + 1)).dropStaleKeys?
      if scan.cursor.atEnd then do
        let scan ← (scan.closeBlocks fun _ => true).dropKey?
        some scan.tokens
      else do
        let scan ← (scan.closeBlocks (scan.cursor.column < ·)).token?
        run? scan fuel

end Scan

/-- Characters that may stand in a text. -/
def isAllowed (c : Char) : Bool :=
  c == '\t' || c == '\n' || c == '\r' || (' ' ≤ c && c ≤ '~') || c == '\u0085' ||
    ('\u00a0' ≤ c && c != '\ufeff' && c != '\ufffe' && c != '\uffff')

/-- The tokens of a text. A byte order mark at its start is no part of it. -/
def tokens? (text : String) : Option (List Token) :=
  let chars := match text.toList with
    | '\ufeff' :: rest => rest
    | chars => chars
  if chars.all isAllowed then Scan.run? {cursor := {rest := chars}} (chars.length + 1) else none

end WorkSchema.Yaml
