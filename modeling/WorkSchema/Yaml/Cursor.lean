import WorkSchema.Yaml.Style

/-!
A place in a YAML text, and the steps from one place to the next.
-/

namespace WorkSchema.Yaml

structure Cursor where
  rest : List Char
  index : Nat := 0
  line : Nat := 0
  column : Nat := 0

namespace Cursor

def peek? (c : Cursor) : Option Char := c.rest.head?

def peekAt? (c : Cursor) (n : Nat) : Option Char := c.rest[n]?

def atEnd (c : Cursor) : Bool := c.rest.isEmpty

def isAt (c : Cursor) (char : Char) : Bool := c.peek? == some char

def isBlank (c : Cursor) : Bool := c.isAt ' ' || c.isAt '\t'

def isBreak (c : Cursor) : Bool := (c.peek?.map Yaml.isBreak).getD false

/-- A break or the end of the text. -/
def endsLine (c : Cursor) : Bool := c.atEnd || c.isBreak

/-- Whether the character `n` places on is a blank, a break or the end. -/
def isBlankOrEndAt (c : Cursor) (n : Nat) : Bool := isBlankOrEnd (c.peekAt? n)

/-- Passes over one character on the line. -/
def step (c : Cursor) : Cursor :=
  {c with rest := c.rest.drop 1, index := c.index + 1, column := c.column + 1}

def steps (c : Cursor) : Nat → Cursor
  | 0 => c
  | n + 1 => c.step.steps n

/-- Passes over a line break, if one is there, and gives it in its normal form:
the separators of lines and paragraphs stay, any other break is a line feed. -/
def stepLine (c : Cursor) : List Char × Cursor :=
  match c.rest with
  | '\r' :: '\n' :: rest => (['\n'], {rest, index := c.index + 2, line := c.line + 1})
  | char :: rest =>
      if char = '\u2028' ∨ char = '\u2029' then
        ([char], {rest, index := c.index + 1, line := c.line + 1})
      else if Yaml.isBreak char then
        (['\n'], {rest, index := c.index + 1, line := c.line + 1})
      else ([], c)
  | [] => ([], c)

def skipWhileFuel (test : Char → Bool) (c : Cursor) : Nat → Cursor
  | 0 => c
  | fuel + 1 =>
      match c.peek? with
      | some char => if test char then skipWhileFuel test c.step fuel else c
      | none => c

/-- Passes over the characters on the line that pass the test. -/
def skipWhile (test : Char → Bool) (c : Cursor) : Cursor := skipWhileFuel test c c.rest.length

def skipBlanks (c : Cursor) : Cursor := c.skipWhile fun char => char == ' ' || char == '\t'

def skipComment (c : Cursor) : Cursor :=
  if c.isAt '#' then c.skipWhile fun char => !Yaml.isBreak char else c

/-- Whether a marker of the start or the end of a document stands here. -/
def isDocumentMarker (c : Cursor) : Bool :=
  c.column == 0 && isMarker c.rest && c.isBlankOrEndAt 3

end Cursor

end WorkSchema.Yaml
