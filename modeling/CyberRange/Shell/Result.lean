import CyberRange.Validation.Reader

namespace CyberRange

/-! The outcome of one command line.

Ordinary output and error messages travel the same way; the type tells how they
are to be shown.
-/

inductive ResultType where
  | success
  | error
  | info
  | warning
deriving Repr, DecidableEq

def ResultType.name : ResultType → String
  | .success => "success"
  | .error => "error"
  | .info => "info"
  | .warning => "warning"

def ResultType.family : List (String × ResultType) :=
  [("success", .success), ("error", .error), ("info", .info), ("warning", .warning)]

structure CommandResult where
  output : String
  type : ResultType
deriving Repr, DecidableEq

namespace CommandResult

def success (output : String) : CommandResult := { output, type := .success }

def error (output : String) : CommandResult := { output, type := .error }

def info (output : String) : CommandResult := { output, type := .info }

def isError (result : CommandResult) : Bool :=
  result.type = .error

def ofJson (input : Json) : Checked CommandResult :=
  CommandResult.mk <$> Reader.defaulting input "output" "" Reader.text
    <*> Reader.defaulting input "type" .success (Reader.caseOf ResultType.family)

/-- An error with a message of any kind, of which a result is made only if it is a text. -/
def errorOf (message : Json) : Checked CommandResult :=
  ofJson (.object [("output", message), ("type", .text ResultType.error.name)])

def toJson (result : CommandResult) : Json :=
  .object [("output", .text result.output), ("type", .text result.type.name)]

end CommandResult

end CyberRange
