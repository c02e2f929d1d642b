import WorkSchema.Number.Binary64

/-!
JSON values. A number is a whole number of the ranges that signed and unsigned
64-bit integers cover together, or a finite binary number; JSON has nothing
else. The members of an object are in ascending order of their names.
-/

namespace WorkSchema

inductive JsonNumber where
  | integer (value : Int) (lower : -0x8000000000000000 ≤ value)
      (upper : value < 0x10000000000000000)
  | float (value : Binary64) (finite : value.isFinite = true)

inductive Json where
  | null
  | bool (value : Bool)
  | number (value : JsonNumber)
  | string (value : String)
  | array (items : List Json)
  | object (members : List (String × Json))

namespace Json

/-- A float as JSON holds it. What is not finite has no number. -/
def ofFloat (x : Binary64) : Json :=
  if h : x.isFinite = true then number (.float x h) else null

/-- A whole number as JSON holds it; outside the integer ranges it is a float. -/
def ofInt (n : Int) : Json :=
  if h : -0x8000000000000000 ≤ n ∧ n < 0x10000000000000000 then number (.integer n h.1 h.2)
  else ofFloat (Binary64.ofInt n)

/-- Puts a member in its place by name. A member of the same name is replaced. -/
def putMember (name : String) (value : Json) : List (String × Json) → List (String × Json)
  | [] => [(name, value)]
  | (other, old) :: rest =>
      if name < other then (name, value) :: (other, old) :: rest
      else if other < name then (other, old) :: putMember name value rest
      else (name, value) :: rest

/-- The object with the given members. Of two members of one name the later one
counts. -/
def objectOf (members : List (String × Json)) : Json :=
  object (members.foldl (fun placed (name, value) => putMember name value placed) [])

/-! Looking into a value. What has another form has no such part. -/

def text? : Json → Option String
  | string text => some text
  | _ => none

def items? : Json → Option (List Json)
  | array items => some items
  | _ => none

def members? : Json → Option (List (String × Json))
  | object members => some members
  | _ => none

def member? (json : Json) (name : String) : Option Json := json.members?.bind (·.lookup name)

end Json

end WorkSchema
