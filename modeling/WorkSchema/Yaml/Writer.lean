import WorkSchema.Format.Document
import WorkSchema.Yaml.Style

/-!
YAML text of documents in block style. Sequences stand at the margin of the
name they belong to, and empty collections are written as brackets.
-/

namespace WorkSchema.Yaml

/-- A text being written. `margin` is the indentation of the collection that is
open, if one is; `fresh` tells that only indentation and indicators stand on
the line so far, and `spaced` that no blank is needed before the next part. -/
structure Writer where
  text : String := ""
  column : Nat := 0
  margin? : Option Nat := none
  spaced : Bool := true
  fresh : Bool := true

namespace Writer

def put (w : Writer) (c : Char) : Writer :=
  if c = '\n' then {w with text := w.text.push c, column := 0}
  else if isBreak c then {w with text := w.text.push c, column := 0}
  else {w with text := w.text.push c, column := w.column + 1}

def putAll (w : Writer) (text : String) : Writer := text.toList.foldl put w

def pad (w : Writer) (target : Nat) : Writer :=
  w.putAll (String.ofList (List.replicate (target - w.column) ' '))

/-- Goes to the margin, on a new line unless the line is fresh and short. -/
def indent (w : Writer) : Writer :=
  let margin := w.margin?.getD 0
  let w := if !w.fresh || margin < w.column || (w.column == margin && !w.spaced) then w.put '\n'
    else w
  {w.pad margin with spaced := true, fresh := true}

/-- Writes an indicator, with a blank before it if one is called for. -/
def indicator (w : Writer) (text : String) (needsSpace leavesSpace leavesFresh : Bool) : Writer :=
  let w := if needsSpace && !w.spaced then w.put ' ' else w
  {w.putAll text with spaced := leavesSpace, fresh := w.fresh && leavesFresh}

/-- Moves the margin in for a collection or a scalar. A sequence may stay at
the margin of the name it belongs to. -/
def deepen (w : Writer) (scalar stay : Bool) : Writer :=
  match w.margin? with
  | none => {w with margin? := some (if scalar then 2 else 0)}
  | some margin => if stay then w else {w with margin? := some (margin + 2)}

def writePlain (w : Writer) (text : String) : Writer :=
  let w := if w.spaced || text.isEmpty then w else w.put ' '
  {w.putAll text with spaced := false, fresh := false}

/-- The characters of a single-quoted scalar. After a line break the next
character goes to the margin. -/
def singleQuotedBody (w : Writer) (afterBreak : Bool) : List Char → Writer
  | [] => if afterBreak then w.indent else w
  | c :: rest =>
      if c = ' ' then singleQuotedBody (w.put c) afterBreak rest
      else if isBreak c then singleQuotedBody {w.put c with fresh := true} true rest
      else
        let w := if afterBreak then w.indent else w
        let w := if c = '\'' then w.put c else w
        singleQuotedBody {w.put c with fresh := false} false rest

def writeSingleQuoted (w : Writer) (text : String) : Writer :=
  let w := (w.indicator "'" true false false).singleQuotedBody false text.toList
  {w.indicator "'" false false false with spaced := false, fresh := false}

def hexDigits (width n : Nat) : String :=
  let digits := (Nat.toDigits 16 n).map Char.toUpper
  String.ofList (List.replicate (width - digits.length) '0' ++ digits)

/-- A character between double quotes. -/
def escape (c : Char) : String :=
  match c with
  | '\x00' => "\\0"
  | '\x07' => "\\a"
  | '\x08' => "\\b"
  | '\t' => "\\t"
  | '\n' => "\\n"
  | '\x0b' => "\\v"
  | '\x0c' => "\\f"
  | '\r' => "\\r"
  | '\x1b' => "\\e"
  | '"' => "\\\""
  | '\\' => "\\\\"
  | '\u0085' => "\\N"
  | '\u2028' => "\\L"
  | '\u2029' => "\\P"
  | _ =>
      if isPrintable c then c.toString
      else if c.toNat ≤ 0xFF then "\\x" ++ hexDigits 2 c.toNat
      else if c.toNat ≤ 0xFFFF then "\\u" ++ hexDigits 4 c.toNat
      else "\\U" ++ hexDigits 8 c.toNat

def writeDoubleQuoted (w : Writer) (text : String) : Writer :=
  let w := w.indicator "\"" true false false
  let w := w.putAll (String.join (text.toList.map escape))
  {w.indicator "\"" false false false with spaced := false, fresh := false}

/-- The header of a literal block: how far its lines are indented, where the
first line would hide that, and what becomes of the breaks at its end. -/
def blockHeader (text : List Char) : String :=
  let hint := match text with
    | c :: _ => if c = ' ' ∨ isBreak c then "2" else ""
    | [] => ""
  let chomp := match text.reverse with
    | last :: before =>
        if !isBreak last then "-"
        else match before with
          | [] => "+"
          | c :: _ => if isBreak c then "+" else ""
    | [] => "-"
  "|" ++ hint ++ chomp

def literalBody (w : Writer) (afterBreak : Bool) : List Char → Writer
  | [] => w
  | c :: rest =>
      if isBreak c then literalBody {w.put c with fresh := true} true rest
      else
        let w := if afterBreak then w.indent else w
        literalBody {w.put c with fresh := false} false rest

def writeLiteral (w : Writer) (text : String) : Writer :=
  let w := w.indicator (blockHeader text.toList) true false false
  let w := {w.put '\n' with fresh := true, spaced := true}
  w.literalBody true text.toList

/-- Writes a text in a style, with the margin moved in for its further lines. -/
def writeScalar (w : Writer) (style : ScalarStyle) (text : String) : Writer :=
  let inner := w.deepen true false
  let written := match style with
    | .plain => inner.writePlain text
    | .singleQuoted => inner.writeSingleQuoted text
    | .doubleQuoted => inner.writeDoubleQuoted text
    | .literal | .folded => inner.writeLiteral text
  {written with margin? := w.margin?}

def writeString (w : Writer) (text : String) : Writer := w.writeScalar (styleOf text) text

/-- The name of a member, on the line of its value or after a question mark. -/
def writeKey (w : Writer) (name : String) : Writer :=
  let w := w.indent
  if isSimpleKey name then
    (w.writeString name).indicator ":" false false false
  else
    let w := (w.indicator "?" true false true).writeString name
    w.indent.indicator ":" true false true

mutual

/-- Writes a document. `inMapping` tells that it is the value of a member. -/
def write (w : Writer) (inMapping : Bool) : Document → Writer
  | .null => w.writeScalar .plain "null"
  | .bool value => w.writeScalar .plain (if value then "true" else "false")
  | .integer value => w.writeScalar .plain (toString value)
  | .float value => w.writeScalar .plain (FloatLayout.yaml.write value)
  | .string value => w.writeString value
  | .sequence [] => (w.indicator "[" true true false).indicator "]" false false false
  | .sequence (item :: items) =>
      let inner := w.deepen false (inMapping && !w.fresh)
      {writeItems inner (item :: items) with margin? := w.margin?}
  | .mapping [] => (w.indicator "\x7b" true true false).indicator "\x7d" false false false
  | .mapping (member :: members) =>
      let inner := w.deepen false false
      {writeMembers inner (member :: members) with margin? := w.margin?}

def writeItems (w : Writer) : List Document → Writer
  | [] => w
  | item :: rest => writeItems ((w.indent.indicator "-" true false true).write false item) rest

def writeMembers (w : Writer) : List (String × Document) → Writer
  | [] => w
  | (name, value) :: rest => writeMembers ((w.writeKey name).write true value) rest

end

end Writer

/-- The text of a document. It ends with a line break. -/
def write (document : Document) : String :=
  (({} : Writer).write false document).indent.text

end WorkSchema.Yaml
