import WorkSchema.Yaml.Scalar

/-!
Which style a text takes when it is written as a YAML scalar: plain where it
reads back as the same text, else quoted, or a literal block if it has lines.
-/

namespace WorkSchema.Yaml

def isBreak (c : Char) : Bool :=
  c == '\n' || c == '\r' || c == '\u0085' || c == '\u2028' || c == '\u2029'

/-- Blanks, breaks and the end of the text, where it stands for a NUL. -/
def isBlankOrEnd (c? : Option Char) : Bool :=
  match c? with
  | none => true
  | some c => c == ' ' || c == '\t' || c == '\x00' || isBreak c

/-- Characters that stand in a scalar as they are. -/
def isPrintable (c : Char) : Bool :=
  c == '\n' || (' ' ≤ c && c ≤ '~') ||
    ('\u00a0' ≤ c && c != '\ufeff' && c != '\ufffe' && c != '\uffff')

/-- What a text allows: a plain scalar outside of flow collections, single
quotes, and a literal block. A text with several lines is no implicit key. -/
structure Analysis where
  plainAllowed : Bool
  singleQuotedAllowed : Bool
  blockAllowed : Bool
  multiline : Bool

/-- The place of a character: the one before it, itself, and what follows. -/
structure Place where
  before? : Option Char
  char : Char
  after? : Option Char

def places (before? : Option Char) : List Char → List Place
  | [] => []
  | c :: rest => ⟨before?, c, rest.head?⟩ :: places (some c) rest

/-- Whether the character could be taken for the start of something else. -/
def Place.isIndicator (place : Place) : Bool :=
  let c := place.char
  match place.before? with
  | none =>
      "#,[]\x7b\x7d&*!|>'\"%@\x60".toList.contains c ||
        ((c == '?' || c == ':' || c == '-') && isBlankOrEnd place.after?)
  | some before =>
      (c == ':' && isBlankOrEnd place.after?) || (c == '#' && isBlankOrEnd (some before))

def isMarker (text : List Char) : Bool :=
  "---".toList.isPrefixOf text || "...".toList.isPrefixOf text

def analyze (text : List Char) : Analysis :=
  let places := places none text
  let starts (test : Char → Bool) : Bool := (text.head?.map test).getD false
  let ends (test : Char → Bool) : Bool := (text.getLast?.map test).getD false
  let pair (first second : Char → Bool) : Bool :=
    places.any fun place => first place.char && (place.after?.map second).getD false
  let isSpace (c : Char) : Bool := c == ' '
  let multiline := text.any isBreak
  let special := text.any (!isPrintable ·)
  let spaceBreak := pair isSpace isBreak
  let breakSpace := pair isBreak isSpace
  { plainAllowed :=
      !(multiline || special || starts isSpace || ends isSpace || isMarker text ||
        places.any Place.isIndicator)
    singleQuotedAllowed := !(special || spaceBreak || breakSpace)
    blockAllowed := !(text.isEmpty || special || spaceBreak || ends isSpace)
    multiline }

/-- The style of a text. A text that would be read as anything but text is
quoted. -/
def styleOf (text : String) : ScalarStyle :=
  let analysis := analyze text.toList
  let quoted : ScalarStyle :=
    if analysis.singleQuotedAllowed then .singleQuoted else .doubleQuoted
  if text.toList.contains '\n' then
    if analysis.blockAllowed then .literal else .doubleQuoted
  else match Meaning.ofPlain text with
    | .string _ =>
        if analysis.plainAllowed && !isZeroPadded text.toList then .plain else quoted
    | _ => quoted

/-- The longest name, in bytes, that is written on the line of its value. -/
def maxKeyLength : Nat := 128

/-- Whether a text can be the name of a member on the line of its value. -/
def isSimpleKey (text : String) : Bool :=
  !(analyze text.toList).multiline && text.utf8ByteSize ≤ maxKeyLength

end WorkSchema.Yaml
