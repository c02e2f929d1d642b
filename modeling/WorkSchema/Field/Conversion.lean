import WorkSchema.Field.Error
import WorkSchema.Instant
import WorkSchema.Url.Syntax

/-!
Values of a single kind. A submitted value is checked against a kind and turned
into the form in which it is stored; values count as the same when their stored
forms are equal.
-/

namespace WorkSchema

namespace FieldError

def mismatch (kind : Kind) (value : FieldValue) : FieldError := .typeMismatch value.display kind

def disallowed (value : FieldValue) : FieldError := .notAllowed value.display

end FieldError

namespace Kind

/-- The stored form of a value. Integers are widened for a float and instants
are moved to UTC; every other value is stored as it is. Composite kinds accept
no value. -/
def convert (kind : Kind) (value : FieldValue) : Except FieldError FieldValue :=
  match kind.representation, value with
  | .text, .string _ | .integer, .integer _ | .float, .float _ | .boolean, .boolean _ => .ok value
  | .url, .string text =>
      if Url.isAbsolute text then .ok value else .error (.mismatch kind value)
  | .instant, .string text =>
      match Instant.ofText? text with
      | some point => .ok (.string point.toText)
      | none => .error (.mismatch kind value)
  | .float, .integer n => .ok (.float (Binary64.ofInt n.toInt))
  | _, _ => .error (.mismatch kind value)

def conforms (kind : Kind) (value : FieldValue) : Bool := (kind.convert value).isOk

/-- Whether two values are stored alike. If one of them does not conform, they
are compared as submitted. -/
def sameValue (kind : Kind) (a b : FieldValue) : Bool :=
  match kind.convert a, kind.convert b with
  | .ok a, .ok b => a.equal b
  | _, _ => a.equal b

end Kind

end WorkSchema
