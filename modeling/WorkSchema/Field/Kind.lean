/-!
The closed set of field kinds. A kind names what a value means; its
representation says which values can carry that meaning.
-/

namespace WorkSchema

inductive Kind where
  | string
  | integer
  | float
  | boolean
  | duration
  | url
  | instant
  | markup
  | user
  | iteration
  | area
  | codebase
  | label
  | workItem
  | enum
  | list
  deriving DecidableEq, Repr

/-- What a value of a kind looks like. Composite kinds hold other types and
have no value of their own. -/
inductive Representation where
  | text
  | url
  | instant
  | integer
  | float
  | boolean
  | composite
  deriving DecidableEq, Repr

namespace Kind

def all : List Kind :=
  [string, integer, float, boolean, duration, url, instant, markup,
    user, iteration, area, codebase, label, workItem, enum, list]

/-- The name of a kind in definitions and messages. -/
def name : Kind → String
  | string => "string"
  | integer => "integer"
  | float => "float"
  | boolean => "boolean"
  | duration => "duration"
  | url => "url"
  | instant => "instant"
  | markup => "markup"
  | user => "user"
  | iteration => "iteration"
  | area => "area"
  | codebase => "codebase"
  | label => "label"
  | workItem => "workitem"
  | enum => "enum"
  | list => "list"

/-- Names are matched exactly; no other spelling stands for a kind. -/
def ofName? (text : String) : Option Kind := all.find? (·.name == text)

def representation : Kind → Representation
  | string | markup | user | iteration | area | codebase | label | workItem => .text
  | url => .url
  | instant => .instant
  | integer | duration => .integer
  | float => .float
  | boolean => .boolean
  | enum | list => .composite

def isComposite (kind : Kind) : Bool := kind.representation == .composite

theorem ofName?_name (kind : Kind) : ofName? kind.name = some kind := by
  cases kind <;> decide

end Kind

end WorkSchema
