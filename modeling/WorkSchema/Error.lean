/-!
How errors are classified. A caller looks at the kind of an error to tell its
own mistakes from those of the installation.
-/

namespace WorkSchema

inductive ErrorSeverity where
  | warning
  | error
  | critical
  deriving DecidableEq, Repr

namespace ErrorSeverity

def name : ErrorSeverity → String
  | .warning => "warning"
  | .error => "error"
  | .critical => "critical"

def rank : ErrorSeverity → Nat
  | .warning => 0
  | .error => 1
  | .critical => 2

/-- Severities are ordered from a warning up to a critical error. -/
def atLeast (severity least : ErrorSeverity) : Bool := least.rank ≤ severity.rank

end ErrorSeverity

inductive ErrorKind where
  | configuration
  | badParameter
  | notFound
  | conflict
  | internal
  deriving DecidableEq, Repr

namespace ErrorKind

def name : ErrorKind → String
  | .configuration => "configuration"
  | .badParameter => "bad_parameter"
  | .notFound => "not_found"
  | .conflict => "conflict"
  | .internal => "internal"

/-- What a request can bring about is an ordinary error; broken definitions
and failures of the installation are critical. -/
def severity : ErrorKind → ErrorSeverity
  | .configuration | .internal => .critical
  | .badParameter | .notFound | .conflict => .error

/-- Whether the request is at fault. -/
def isRequestError : ErrorKind → Bool
  | .badParameter | .notFound | .conflict => true
  | .configuration | .internal => false

end ErrorKind

end WorkSchema
