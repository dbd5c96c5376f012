/-!
# Severities

Every diagnostic carries a severity. One of severity `ignore` is still reported; whether it is
shown is up to the report.
-/
namespace JavadocTags

/-- The severities, from the least to the most serious. -/
inductive Severity where
  | ignore
  | info
  | warning
  | error
deriving DecidableEq, Repr, Inhabited

namespace Severity

def all : List Severity := [ignore, info, warning, error]

/-- The written name. -/
def name : Severity → String
  | ignore => "ignore"
  | info => "info"
  | warning => "warning"
  | error => "error"

def label : Severity → String
  | ignore => "IGNORE"
  | info => "INFO"
  | warning => "WARN"
  | error => "ERROR"

/-- The severity of a written name. -/
def ofName? (text : String) : Option Severity :=
  all.find? (·.name == text)

end Severity

end JavadocTags
