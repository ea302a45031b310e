/-!
# Issues

What a look at a registry may find: an error makes the registry unusable, a warning says that some
compilation fails or that a hop is one-way in effect, the rest is information.
-/

namespace ScopedSearch

/-- How much an issue matters. -/
inductive Severity where
  | error
  | warning
  | info
  deriving DecidableEq, Repr

namespace Severity

def name : Severity → String
  | error => "error"
  | warning => "warning"
  | info => "info"

def mark : Severity → String
  | error => "[ERROR]"
  | warning => "[WARNING]"
  | info => "[INFO]"

end Severity

/-- Something found about the term of this scope and name. -/
structure Issue where
  severity : Severity
  message : String
  scope : String
  term : String
  suggestion : Option String := none
  deriving DecidableEq, Repr

/-- The place of an issue in its text: nothing when the scope has no name, the scope alone when the
term has none. -/
def Issue.place (issue : Issue) : String :=
  if issue.scope = "" then ""
  else if issue.term = "" then " at " ++ issue.scope
  else " at " ++ issue.scope ++ "." ++ issue.term

def Issue.text (issue : Issue) : String :=
  let suggestion :=
    match issue.suggestion with
    | none => ""
    | some text => if text = "" then "" else "\n  Suggestion: " ++ text
  issue.severity.mark ++ issue.place ++ ": " ++ issue.message ++ suggestion

end ScopedSearch
