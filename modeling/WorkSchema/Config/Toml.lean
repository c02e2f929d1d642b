import WorkSchema.Config.Value
import WorkSchema.Text.Escape

/-!
The text of a configuration file in TOML. The whole text is checked; of its values only those
are kept that a setting can be made of.
-/

namespace WorkSchema.Toml

/-- How a table came to be, which decides what may still be added to it. -/
inductive Origin where
  | implicit
  | header
  | dotted
  deriving DecidableEq

/-- What stands under a name. Of an array of tables the last one comes first. -/
inductive Item where
  | value (value : ConfigValue)
  | table (origin : Origin) (members : List (String × Item))
  | tables (tables : List (List (String × Item)))

abbrev Members := List (String × Item)

namespace Members

def put (name : String) (item : Item) : Members → Members
  | [] => [(name, item)]
  | (other, old) :: rest =>
      if other = name then (name, item) :: rest else (other, old) :: put name item rest

/-- Puts a value under a dotted key. A name is given a value once, and a table
with a header of its own is closed to dotted keys. -/
def assign? (value : ConfigValue) : List String → Members → Option Members
  | [], _ => none
  | [name], members =>
      if (members.lookup name).isSome then none else some (put name (.value value) members)
  | name :: rest, members =>
      match members.lookup name with
      | none => do
          let inner ← assign? value rest []
          some (put name (.table .dotted inner) members)
      | some (.table origin inner) =>
          if origin = .header then none
          else do
            let inner ← assign? value rest inner
            some (put name (.table origin inner) members)
      | some _ => none

/-- Changes the table that a header leads to. Tables on the way that are not
there yet are made, and an array of tables stands for its last one. -/
def atTable? (change : String → Members → Option Members) : List String → Members → Option Members
  | [], _ => none
  | [name], members => change name members
  | name :: rest, members =>
      match members.lookup name with
      | none => do
          let inner ← atTable? change rest []
          some (put name (.table .implicit inner) members)
      | some (.table origin inner) => do
          let inner ← atTable? change rest inner
          some (put name (.table origin inner) members)
      | some (.tables (last :: others)) => do
          let last ← atTable? change rest last
          some (put name (.tables (last :: others)) members)
      | some _ => none

/-- Opens a table, which has at most one header. -/
def openTable? (name : String) (members : Members) : Option Members :=
  match members.lookup name with
  | none => some (put name (.table .header []) members)
  | some (.table .implicit inner) => some (put name (.table .header inner) members)
  | some _ => none

/-- Opens a further table of an array. -/
def openTables? (name : String) (members : Members) : Option Members :=
  match members.lookup name with
  | none => some (put name (.tables [[]]) members)
  | some (.tables tables) => some (put name (.tables ([] :: tables)) members)
  | some _ => none

/-- Puts a value under a dotted key of the table that is open. -/
def assignIn? (path key : List String) (value : ConfigValue) (members : Members) : Option Members :=
  if path.isEmpty then assign? value key members
  else
    let change (name : String) (members : Members) : Option Members :=
      match members.lookup name with
      | some (.table origin inner) => do
          let inner ← assign? value key inner
          some (put name (.table origin inner) members)
      | some (.tables (last :: others)) => do
          let last ← assign? value key last
          some (put name (.tables (last :: others)) members)
      | _ => none
    atTable? change path members

end Members

def isBlank (c : Char) : Bool := c == ' ' || c == '\t'

def skipBlanks (text : List Char) : List Char := text.dropWhile isBlank

/-- Characters that may stand in comments and literal strings. -/
def isLiteralChar (c : Char) : Bool := c == '\t' || (' ' ≤ c && c != '\x7f')

def skipComment (text : List Char) : List Char :=
  match text with
  | '#' :: rest => rest.dropWhile isLiteralChar
  | _ => text

def newline? : List Char → Option (List Char)
  | '\n' :: rest => some rest
  | '\r' :: '\n' :: rest => some rest
  | _ => none

/-- The rest of a line, which may hold a comment. -/
def endLine? (text : List Char) : Option (List Char) :=
  match skipComment (skipBlanks text) with
  | [] => some []
  | rest => newline? rest

/-- Passes over blanks, comments and line breaks. -/
def skipLines (text : List Char) : Nat → List Char
  | 0 => text
  | fuel + 1 =>
      let rest := skipComment (skipBlanks text)
      match newline? rest with
      | some rest => skipLines rest fuel
      | none => rest

def expect? (c : Char) (text : List Char) : Option (List Char) :=
  match text with
  | first :: rest => if first = c then some rest else none
  | [] => none

def basicString? (chars : List Char) : List Char → Nat → Option (String × List Char)
  | '"' :: rest, _ + 1 => some (String.ofList chars.reverse, rest)
  | '\\' :: rest, fuel + 1 => do
      let (c, rest) ← Text.escaped? rest
      basicString? (c :: chars) rest fuel
  | c :: rest, fuel + 1 => if isLiteralChar c then basicString? (c :: chars) rest fuel else none
  | _, _ => none

def literalString? (text : List Char) : Option (String × List Char) := do
  let run := text.takeWhile fun c => isLiteralChar c && c != '\''
  let rest ← expect? '\'' (text.drop run.length)
  some (String.ofList run, rest)

/-- Passes over an escaped line break and the blank space after it. -/
def foldLine? (text : List Char) : Option (List Char) := do
  let rest ← newline? (skipBlanks text)
  some (rest.dropWhile fun c => isBlank c || c == '\n' || c == '\r')

/-- The end of a string of several lines: three quotes, before which up to two
more belong to the string. -/
def closeLines? (quote : Char) (chars text : List Char) : Option (String × List Char) :=
  let quotes := (text.takeWhile (· == quote)).length
  if 3 ≤ quotes ∧ quotes ≤ 5 then
    some (String.ofList (chars.reverse ++ List.replicate (quotes - 3) quote), text.drop quotes)
  else none

/-- A string of several lines after its opening quotes. -/
def linesString? (quote : Char) (chars : List Char) (text : List Char) :
    Nat → Option (String × List Char)
  | 0 => none
  | fuel + 1 =>
      match newline? text, text with
      | some rest, _ => linesString? quote ('\n' :: chars) rest fuel
      | none, [] => none
      | none, c :: rest =>
          if c = quote then
            if (text.take 3).length = 3 ∧ (text.take 3).all (· == quote) then
              closeLines? quote chars text
            else linesString? quote (c :: chars) rest fuel
          else if c = '\\' ∧ quote = '"' then
            match foldLine? rest with
            | some rest => linesString? quote chars rest fuel
            | none => do
                let (c, rest) ← Text.escaped? rest
                linesString? quote (c :: chars) rest fuel
          else if isLiteralChar c then linesString? quote (c :: chars) rest fuel
          else none

/-- A string of any form at its opening quote. -/
def string? (text : List Char) : Option (String × List Char) :=
  match text with
  | '"' :: '"' :: '"' :: rest =>
      linesString? '"' [] ((newline? rest).getD rest) (rest.length + 1)
  | '\'' :: '\'' :: '\'' :: rest =>
      linesString? '\'' [] ((newline? rest).getD rest) (rest.length + 1)
  | '"' :: rest => basicString? [] rest (rest.length + 1)
  | '\'' :: rest => literalString? rest
  | _ => none

def isBareChar (c : Char) : Bool := c.isAlphanum || c == '_' || c == '-'

/-- One part of a key. -/
def keyPart? (text : List Char) : Option (String × List Char) :=
  match text with
  | '"' :: rest => basicString? [] rest (rest.length + 1)
  | '\'' :: rest => literalString? rest
  | _ =>
      let run := text.takeWhile isBareChar
      if run.isEmpty then none else some (String.ofList run, text.drop run.length)

/-- A key of parts with dots between them. -/
def key? (text : List Char) : Nat → Option (List String × List Char)
  | 0 => none
  | fuel + 1 => do
      let (part, rest) ← keyPart? (skipBlanks text)
      match skipBlanks rest with
      | '.' :: rest => do
          let (parts, rest) ← key? rest fuel
          some (part :: parts, rest)
      | rest => some ([part], rest)

/-- Digits of a base without the underscores, each of which stands between two
digits. -/
def digits? (isDigit : Char → Bool) (text : List Char) : Option (List Char) :=
  let rec go (afterDigit : Bool) : List Char → Option (List Char)
    | [] => if afterDigit then some [] else none
    | '_' :: rest => if afterDigit then go false rest else none
    | c :: rest => if isDigit c then (go true rest).map (c :: ·) else none
  go false text

def unsign : List Char → List Char
  | '+' :: rest | '-' :: rest => rest
  | text => text

/-- Decimal digits without a leading zero. -/
def decimal? (text : List Char) : Option Nat := do
  let digits ← digits? Char.isDigit text
  if 1 < digits.length ∧ digits.head? = some '0' then none else Digits.inBase? 10 digits

def natural? (text : List Char) : Option Nat :=
  match text with
  | '0' :: 'x' :: rest =>
      (digits? (fun c => (Digits.hexDigit? c).isSome) rest).bind (Digits.inBase? 16)
  | '0' :: 'o' :: rest => (digits? Char.isDigit rest).bind (Digits.inBase? 8)
  | '0' :: 'b' :: rest => (digits? Char.isDigit rest).bind (Digits.inBase? 2)
  | _ => decimal? text

/-- A whole number of 64 bits. Only a decimal one has a sign. -/
def integer? (text : List Char) : Option Int := do
  let value : Int ← match text with
    | '-' :: rest => (decimal? rest).map fun n => -(n : Int)
    | '+' :: rest => (decimal? rest).map fun n => (n : Int)
    | _ => (natural? text).map fun n => (n : Int)
  if -0x8000000000000000 ≤ value ∧ value < 0x8000000000000000 then some value else none

def isExponentMark (c : Char) : Bool := c == 'e' || c == 'E'

def isFloat (text : List Char) : Bool :=
  let body := unsign text
  if body = "inf".toList ∨ body = "nan".toList then true
  else
    let mantissa := body.takeWhile (!isExponentMark ·)
    let exponent := body.drop mantissa.length
    let whole := mantissa.takeWhile (· != '.')
    let fraction := mantissa.drop whole.length
    (decimal? whole).isSome && !(fraction.isEmpty && exponent.isEmpty) &&
      (fraction.isEmpty || (digits? Char.isDigit (fraction.drop 1)).isSome) &&
      (exponent.isEmpty || (digits? Char.isDigit (unsign (exponent.drop 1))).isSome)

def daysInMonth (year month : Nat) : Nat :=
  if month = 2 then
    if year % 4 = 0 ∧ (year % 100 ≠ 0 ∨ year % 400 = 0) then 29 else 28
  else if [4, 6, 9, 11].contains month then 30
  else 31

def date? (text : List Char) : Option (List Char) := do
  let (year, rest) ← Digits.take? 4 text
  let (month, rest) ← Digits.take? 2 (← expect? '-' rest)
  let (day, rest) ← Digits.take? 2 (← expect? '-' rest)
  if 1 ≤ month ∧ month ≤ 12 ∧ 1 ≤ day ∧ day ≤ daysInMonth year month then some rest else none

def time? (text : List Char) : Option (List Char) := do
  let (hour, rest) ← Digits.take? 2 text
  let (minute, rest) ← Digits.take? 2 (← expect? ':' rest)
  let (second, rest) ← Digits.take? 2 (← expect? ':' rest)
  if 23 < hour ∨ 59 < minute ∨ 60 < second then none
  else match rest with
    | '.' :: rest =>
        let run := rest.takeWhile Char.isDigit
        if run.isEmpty then none else some (rest.drop run.length)
    | rest => some rest

def isOffset (text : List Char) : Bool :=
  match text with
  | [] | ['Z'] | ['z'] => true
  | '+' :: rest | '-' :: rest =>
      match Digits.take? 2 rest with
      | some (hour, ':' :: rest) =>
          match Digits.take? 2 rest with
          | some (minute, []) => hour ≤ 23 && minute ≤ 59
          | _ => false
      | _ => false
  | _ => false

/-- A date, a time, or both. -/
def isMoment (text : List Char) : Bool :=
  match date? text with
  | some [] => true
  | some (mark :: rest) =>
      (mark == 'T' || mark == 't' || mark == ' ') && ((time? rest).map isOffset).getD false
  | none => time? text == some []

def isPlainChar (c : Char) : Bool := c.isAlphanum || "+-_.:".toList.contains c

/-- The characters of a value without brackets or quotes. A blank belongs to it
between a date and a time. -/
def plainRun (text : List Char) : List Char :=
  let run := text.takeWhile isPlainChar
  match text.drop run.length with
  | ' ' :: c :: rest =>
      if date? run = some [] ∧ c.isDigit then run ++ ' ' :: (c :: rest).takeWhile isPlainChar
      else run
  | _ => run

def plainValue? (run : List Char) : Option ConfigValue :=
  if run = "true".toList then some (.boolean true)
  else if run = "false".toList then some (.boolean false)
  else match integer? run with
    | some n => some (.integer n)
    | none => if isFloat run || isMoment run then some .other else none

mutual

def value? (text : List Char) : Nat → Option (ConfigValue × List Char)
  | 0 => none
  | fuel + 1 =>
      match text with
      | '"' :: _ | '\'' :: _ => (string? text).map fun (value, rest) => (.string value, rest)
      | '[' :: rest => (items? rest fuel).map fun rest => (.other, rest)
      | '\x7b' :: rest =>
          match skipBlanks rest with
          | '\x7d' :: rest => some (.other, rest)
          | rest => (members? [] rest fuel).map fun rest => (.other, rest)
      | _ => do
          let run := plainRun text
          let value ← plainValue? run
          some (value, text.drop run.length)

/-- The items of an array, which may stand on several lines. -/
def items? (text : List Char) : Nat → Option (List Char)
  | 0 => none
  | fuel + 1 =>
      match skipLines text (text.length + 1) with
      | ']' :: rest => some rest
      | rest => do
          let (_, rest) ← value? rest fuel
          match skipLines rest (rest.length + 1) with
          | ',' :: rest => items? rest fuel
          | ']' :: rest => some rest
          | _ => none

/-- The members of a table on one line. -/
def members? (members : Members) (text : List Char) : Nat → Option (List Char)
  | 0 => none
  | fuel + 1 => do
      let (key, rest) ← key? text (text.length + 1)
      let (value, rest) ← value? (skipBlanks (← expect? '=' rest)) fuel
      let members ← members.assign? value key
      match skipBlanks rest with
      | ',' :: rest => members? members rest fuel
      | '\x7d' :: rest => some rest
      | _ => none

end

/-- A line of a document: a header, or a key and its value. The state is the way
to the table that is open, and everything read so far. -/
def line? (path : List String) (members : Members) (text : List Char) :
    Option ((List String × Members) × List Char) :=
  let fuel := text.length + 1
  match text with
  | '[' :: '[' :: rest => do
      let (path, rest) ← key? rest fuel
      let rest ← expect? ']' (← expect? ']' rest)
      let members ← members.atTable? Members.openTables? path
      some ((path, members), ← endLine? rest)
  | '[' :: rest => do
      let (path, rest) ← key? rest fuel
      let rest ← expect? ']' rest
      let members ← members.atTable? Members.openTable? path
      some ((path, members), ← endLine? rest)
  | _ => do
      let (key, rest) ← key? text fuel
      let (value, rest) ← value? (skipBlanks (← expect? '=' rest)) fuel
      let members ← members.assignIn? path key value
      some ((path, members), ← endLine? rest)

def document? (path : List String) (members : Members) (text : List Char) : Nat → Option Members
  | 0 => none
  | fuel + 1 =>
      match skipLines text (text.length + 1) with
      | [] => some members
      | rest => do
          let ((path, members), rest) ← line? path members rest
          document? path members rest fuel

/-- The values at the top of a text; `none` if it is no TOML text. -/
def parse? (text : String) : Option ConfigLayer :=
  let chars := match text.toList with
    | '\ufeff' :: rest => rest
    | chars => chars
  (document? [] [] chars (chars.length + 1)).map fun members =>
    members.map fun (name, item) =>
      (name, match item with
        | .value value => value
        | _ => .other)

end WorkSchema.Toml
