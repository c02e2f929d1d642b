import WorkSchema.Yaml.ScalarText

/-!
What may stand before a node or a document: anchors, aliases, tags and
directives.
-/

namespace WorkSchema.Yaml

def isWordChar (c : Char) : Bool := c.isAlphanum || c == '_' || c == '-'

/-- The characters at the cursor that pass the test, and the place after them. -/
def takeRun (test : Char → Bool) (c : Cursor) : List Char × Cursor :=
  let run := c.rest.takeWhile test
  (run, c.steps run.length)

/-- The name of an anchor or an alias, after its indicator. -/
def readAnchorName? (c : Cursor) : Option (String × Cursor) :=
  let (name, next) := takeRun isWordChar c
  let ends := next.isBlankOrEndAt 0 || (next.peek?.map "?:,]\x7d%@\x60".toList.contains).getD false
  if name.isEmpty || !ends then none else some (String.ofList name, next)

/-- A tag as it is written: a handle, which a directive may give a meaning, and
what follows it. -/
structure TagText where
  handle : String
  suffix : String

def isTagChar (verbatim : Bool) (c : Char) : Bool :=
  isWordChar c || ";/?:@&=+$.%!~*'()".toList.contains c || (verbatim && ",[]".toList.contains c)

/-- Resolves the escapes of a tag: a percent sign and two digits for a byte. -/
def tagBytes? : List Char → Option (List UInt8)
  | '%' :: high :: low :: rest => do
      let byte ← Digits.inBase? 16 [high, low]
      let tail ← tagBytes? rest
      some (byte.toUInt8 :: tail)
  | '%' :: _ => none
  | c :: rest => do
      let tail ← tagBytes? rest
      some ((String.ofList [c]).toUTF8.toList ++ tail)
  | [] => some []

def readTagChars? (verbatim : Bool) (c : Cursor) : Option (String × Cursor) := do
  let (run, next) := takeRun (isTagChar verbatim) c
  let bytes ← tagBytes? run
  let text ← String.fromUTF8? bytes.toByteArray
  some (text, next)

/-- An exclamation mark, a word, and perhaps a second exclamation mark. -/
def readTagHandle? (c : Cursor) : Option (String × Cursor) :=
  if !c.isAt '!' then none
  else
    let (word, next) := takeRun isWordChar c.step
    if next.isAt '!' then some (String.ofList ('!' :: word ++ ['!']), next.step)
    else some (String.ofList ('!' :: word), next)

/-- A tag. Without a second exclamation mark its word is part of the suffix, and
the mark alone is a suffix without a handle. -/
def readTag? (inFlow : Bool) (c : Cursor) : Option (TagText × Cursor) := do
  let (tag, next) ←
    if c.peekAt? 1 = some '<' then do
      let (suffix, next) ← readTagChars? true (c.steps 2)
      if suffix.isEmpty || !next.isAt '>' then none
      else some (TagText.mk "" suffix, next.step)
    else do
      let (handle, next) ← readTagHandle? c
      if 1 < handle.length && handle.endsWith "!" then do
        let (suffix, next) ← readTagChars? false next
        if suffix.isEmpty then none else some (TagText.mk handle suffix, next)
      else do
        let (tail, next) ← readTagChars? false next
        let suffix := String.ofList (handle.toList.drop 1) ++ tail
        some (if suffix.isEmpty then TagText.mk "" "!" else TagText.mk "!" suffix, next)
  if next.isBlankOrEndAt 0 || (inFlow && next.isAt ',') then some (tag, next) else none

inductive Directive where
  | version (major minor : Nat)
  | tag (handle expansion : String)

/-- A number in a directive, of at most nine digits. -/
def readVersionNumber? (c : Cursor) : Option (Nat × Cursor) := do
  let (digits, next) := takeRun Char.isDigit c
  let number ← naturalIn? 10 digits
  if digits.length ≤ 9 then some (number, next) else none

def readVersion? (c : Cursor) : Option (Directive × Cursor) := do
  let (major, c) ← readVersionNumber? c.skipBlanks
  if !c.isAt '.' then none
  else do
    let (minor, c) ← readVersionNumber? c.step
    some (.version major minor, c)

def readTagDirective? (c : Cursor) : Option (Directive × Cursor) := do
  let (handle, c) ← readTagHandle? c.skipBlanks
  if (handle ≠ "!" && !handle.endsWith "!") || !c.isBlank then none
  else do
    let (expansion, c) ← readTagChars? true c.skipBlanks
    if expansion.isEmpty || !c.isBlankOrEndAt 0 then none
    else some (.tag handle expansion, c)

/-- A directive after its indicator, with the rest of its line. -/
def readDirective? (c : Cursor) : Option (Directive × Cursor) := do
  let (name, next) := takeRun isWordChar c
  if !next.isBlankOrEndAt 0 then none
  else do
    let (directive, next) ←
      match String.ofList name with
      | "YAML" => readVersion? next
      | "TAG" => readTagDirective? next
      | _ => none
    let next := next.skipBlanks.skipComment
    if next.endsLine then some (directive, next.stepLine.2) else none

end WorkSchema.Yaml
