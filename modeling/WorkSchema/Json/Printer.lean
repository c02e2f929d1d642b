import WorkSchema.Format.Document
import WorkSchema.Text.Quoted

/-!
JSON text of documents, on one line or indented. Only the quote, the backslash
and the controls below the space are escaped in strings.
-/

namespace WorkSchema.JsonText

def hexDigit (n : Nat) : Char := "0123456789abcdef".toList.getD (n % 16) '0'

def escape (c : Char) : String :=
  match c with
  | '"' => "\\\""
  | '\\' => "\\\\"
  | '\n' => "\\n"
  | '\r' => "\\r"
  | '\t' => "\\t"
  | '\x08' => "\\b"
  | '\x0c' => "\\f"
  | _ =>
      if c.toNat < 32 then
        "\\u00" ++ String.ofList [hexDigit (c.toNat / 16), hexDigit c.toNat]
      else c.toString

def quote (text : String) : String := "\"" ++ String.join (text.toList.map escape) ++ "\""

def number (x : Binary64) : String :=
  if x.isFinite then FloatLayout.json.write x else "null"

mutual

/-- The text of a document without any blanks. -/
def compact : Document → String
  | .null => "null"
  | .bool value => if value then "true" else "false"
  | .integer value => toString value
  | .float value => number value
  | .string value => quote value
  | .sequence items => "[" ++ ",".intercalate (compactItems items) ++ "]"
  | .mapping members => "\x7b" ++ ",".intercalate (compactMembers members) ++ "\x7d"

def compactItems : List Document → List String
  | [] => []
  | item :: rest => compact item :: compactItems rest

def compactMembers : List (String × Document) → List String
  | [] => []
  | (name, value) :: rest => (quote name ++ ":" ++ compact value) :: compactMembers rest

end

def margin (level : Nat) : String := String.ofList (List.replicate (2 * level) ' ')

/-- Lines between brackets, one level further in than the brackets. -/
def block (level : Nat) (opening closing : String) (lines : List String) : String :=
  if lines.isEmpty then opening ++ closing
  else
    opening ++ "\n" ++ ",\n".intercalate (lines.map (margin (level + 1) ++ ·)) ++
      "\n" ++ margin level ++ closing

mutual

/-- The text of a document with two blanks of indentation to a level. -/
def indented (level : Nat) : Document → String
  | .sequence items => block level "[" "]" (indentedItems (level + 1) items)
  | .mapping members => block level "\x7b" "\x7d" (indentedMembers (level + 1) members)
  | .null => "null"
  | .bool value => if value then "true" else "false"
  | .integer value => toString value
  | .float value => number value
  | .string value => quote value

def indentedItems (level : Nat) : List Document → List String
  | [] => []
  | item :: rest => indented level item :: indentedItems level rest

def indentedMembers (level : Nat) : List (String × Document) → List String
  | [] => []
  | (name, value) :: rest =>
      (quote name ++ ": " ++ indented level value) :: indentedMembers level rest

end

end WorkSchema.JsonText
