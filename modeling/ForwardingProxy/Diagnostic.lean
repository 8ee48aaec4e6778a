/-!
Contract: messages to the user about a generation pass.

Owns: `Severity`, `Diagnostic` and its one-line text, and the questions about lists of them.
-/

namespace ForwardingProxy

/-- How much a message matters, the gravest first. -/
inductive Severity where
  | error
  | warning
  | info
deriving DecidableEq, Repr

/-- The severity in words. -/
def Severity.describe : Severity → String
  | .error => "error"
  | .warning => "warning"
  | .info => "info"

/-- The place in the order from error over warning to info. -/
def Severity.rank : Severity → Nat
  | .error => 0
  | .warning => 1
  | .info => 2

/-- The later of two severities in that order. -/
def Severity.later (left right : Severity) : Severity :=
  if left.rank < right.rank then right else left

/-- A message; `declaration` names the declaration it is about. -/
structure Diagnostic where
  severity : Severity
  message : String
  declaration : Option String
deriving DecidableEq, Repr

namespace Diagnostic

/-- An error about a declaration. -/
def error (message declaration : String) : Diagnostic :=
  ⟨.error, message, some declaration⟩

/-- A warning about the pass as a whole. -/
def warning (message : String) : Diagnostic :=
  ⟨.warning, message, none⟩

/-- Whether the message is an error. -/
def isError (diagnostic : Diagnostic) : Bool :=
  diagnostic.severity == .error

/-- The message as one text. -/
def describe (diagnostic : Diagnostic) : String :=
  diagnostic.severity.describe ++ ": " ++ diagnostic.message
    ++ match diagnostic.declaration with
      | none => ""
      | some declaration => " (at `" ++ declaration ++ "`)"

/-- The errors in their order. -/
def errors (diagnostics : List Diagnostic) : List Diagnostic :=
  diagnostics.filter isError

end Diagnostic

end ForwardingProxy
