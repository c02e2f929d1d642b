import WorkSchema.Config.Value
import WorkSchema.Number.DecimalText
import WorkSchema.Text.Blank
import WorkSchema.Text.Escape

/-!
Settings from variables of the environment. The value of a variable is read as
a number, a truth value, a quoted text or a collection, and is taken as it is if
it is none of them.
-/

namespace WorkSchema.Variable

/-- What the names of variables for settings begin with, in any letter case. -/
def namePrefix : String := "TRACKER_"

def isBlank (c : Char) : Bool := c == ' ' || ('\t' ≤ c && c ≤ '\r' && c != '\x0b')

def skipBlanks (text : List Char) : List Char := text.dropWhile isBlank

/-- Characters that end a value without quotes. -/
def isSeparator (c : Char) : Bool := c == ',' || "[]\x7b\x7d".toList.contains c

/-- A text after its opening quote. -/
def quoted? (chars : List Char) : List Char → Nat → Option (String × List Char)
  | '"' :: rest, _ + 1 => some (String.ofList chars.reverse, rest)
  | '\\' :: rest, fuel + 1 => do
      let (c, rest) ← Text.escaped? rest
      quoted? (c :: chars) rest fuel
  | c :: rest, fuel + 1 => quoted? (c :: chars) rest fuel
  | _, _ => none

/-- A value without quotes. A number with a point is a float. -/
def plain (text : String) : ConfigValue :=
  let chars := text.toList
  let (negative, digits) := DecimalText.splitSign chars
  let allDigits := !digits.isEmpty && digits.all Char.isDigit
  let value := Digits.value digits
  if chars.contains '.' then
    if (DecimalText.ofChars? chars).isSome then .other else .string text
  else if allDigits && negative then
    if value ≤ 0x80000000000000000000000000000000 then .integer (-(value : Int)) else .string text
  else if allDigits then
    if value < 0x100000000000000000000000000000000 then .integer value else .string text
  else .string text

def isWordChar (c : Char) : Bool := c.isAlphanum || c == '_' || c == '-'

def key? (text : List Char) : Option (List Char) :=
  match text with
  | '"' :: rest => (quoted? [] rest (rest.length + 1)).map Prod.snd
  | _ =>
      let run := text.takeWhile isWordChar
      if run.isEmpty then none else some (text.drop run.length)

mutual

def value? (text : List Char) : Nat → Option (ConfigValue × List Char)
  | 0 => none
  | fuel + 1 => do
      let (value, rest) ← match skipBlanks text with
        | [] => some (ConfigValue.string "", [])
        | 't' :: 'r' :: 'u' :: 'e' :: rest => some (.boolean true, rest)
        | 'f' :: 'a' :: 'l' :: 's' :: 'e' :: rest => some (.boolean false, rest)
        | '\x7b' :: rest => (items? true '\x7d' rest fuel).map fun rest => (.other, rest)
        | '[' :: rest => (items? false ']' rest fuel).map fun rest => (.other, rest)
        | '"' :: rest =>
            (quoted? [] rest (rest.length + 1)).map fun (value, rest) => (.string value, rest)
        | '\'' :: c :: '\'' :: rest => some (.string c.toString, rest)
        | '\'' :: _ => none
        | text =>
            let run := text.takeWhile (!isSeparator ·)
            some (plain (Text.trim (String.ofList run)), text.drop run.length)
      some (value, skipBlanks rest)

/-- The items of a collection up to its closing bracket, each after a key and an
equals sign if `keyed` holds. -/
def items? (keyed : Bool) (closing : Char) (text : List Char) : Nat → Option (List Char)
  | 0 => none
  | fuel + 1 =>
      match skipBlanks text with
      | [] => none
      | c :: rest =>
          if c = closing then some rest
          else do
            let rest ← if keyed then
                match (key? (c :: rest)).map skipBlanks with
                | some ('=' :: rest) => some rest
                | _ => none
              else some (c :: rest)
            let (_, rest) ← value? rest fuel
            match rest with
            | ',' :: rest => items? keyed closing rest fuel
            | c :: rest => if c = closing then some rest else none
            | [] => none

end

/-- What the value of a variable says. -/
def parse (text : String) : ConfigValue :=
  match value? text.toList (text.length + 1) with
  | some (value, []) => value
  | _ => .string text

/-- The setting that a variable is for. A name with a dot is one of a part of a
setting, which no setting has. -/
def setting? (name : String) (value : String) : Option (String × ConfigValue) :=
  let key := name.trimAscii.toString.toLower
  let start := namePrefix.toLower
  if key.startsWith start then
    match ((key.drop start.length).toString.splitOn ".") with
    | [setting] => some (setting, parse value)
    | setting :: _ => some (setting, .other)
    | [] => none
  else none

/-- The usual names of the variables for settings. -/
def names : List String := Settings.names.map fun name => namePrefix ++ name.toUpper

/-- The layer of an environment. -/
def layer (environment : List (String × String)) : ConfigLayer :=
  environment.filterMap fun (name, value) => setting? name value

end WorkSchema.Variable
