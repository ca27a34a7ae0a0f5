import CyberRange.Http.Message
import CyberRange.Registry

namespace CyberRange

/-! Requests that are refused, and the responses that say so. -/

/-- What keeps the registry from being had: its kind, and the text that it prints as. -/
structure Outage where
  kind : String
  text : String
deriving Repr, DecidableEq

inductive Refusal where
  | unknownSession (id : String)
  | sessionLimit (capacity : Int)
  | invalidData (issues : List Issue)
  | badValue (message : String)
  | failure (message : String)
  /-- Anything else; only its kind is told. -/
  | unexpected (outage : Outage)

inductive Unwritable where
  | notPlain
  | notFinite
deriving Repr, DecidableEq

def Unwritable.message : Unwritable → String
  | .notPlain => "Object of type ValueError is not JSON serializable"
  | .notFinite => "Out of range float values are not JSON compliant"

namespace Refusal

def ofRegistryFault : RegistryFault → Refusal
  | .unknownSession id => .unknownSession id
  | .limitReached capacity => .sessionLimit capacity
  | .invalidLatency invalid => .badValue invalid.message
  | .unknownDirection unknown => .badValue unknown.message

def valueKinds : List String :=
  ["ValueError", "UnicodeError", "UnicodeDecodeError", "UnicodeEncodeError",
    "UnicodeTranslateError", "JSONDecodeError"]

def stateKinds : List String :=
  ["RuntimeError", "NotImplementedError", "RecursionError"]

/-- An outage goes by its kind. -/
def ofOutage (outage : Outage) : Refusal :=
  if valueKinds.contains outage.kind then .badValue outage.text
  else if stateKinds.contains outage.kind then .failure outage.text
  else .unexpected outage

/-- What a refusal says by itself; issues in data have no common message. -/
def message : Refusal → Option String
  | .unknownSession id => some (RegistryFault.unknownText id)
  | .sessionLimit capacity => some (RegistryFault.limitText (toString capacity))
  | .invalidData _ => none
  | .badValue message => some message
  | .failure message => some message
  | .unexpected outage => some outage.text

def status : Refusal → Int
  | .unknownSession _ => 404
  | .sessionLimit _ => 409
  | .invalidData _ => 422
  | .badValue _ => 400
  | .failure _ => 500
  | .unexpected _ => 500

def body : Refusal → List (String × Json)
  | .unknownSession id =>
      [("error", .text "Session Not Found"),
        ("detail", .text ("The session '" ++ id ++ "' does not exist")),
        ("session_id", .text id)]
  | .sessionLimit capacity =>
      [("error", .text "Session Limit Reached"),
        ("detail", .text (RegistryFault.limitText (toString capacity))),
        ("max_sessions", .int capacity),
        ("suggestion",
          .text "Delete an existing session with DELETE /sessions/\x7bsession_id\x7d")]
  | .invalidData issues =>
      [("error", .text "Validation Error"),
        ("detail", .text "The request data failed validation"),
        ("validation_errors", .list (issues.map Issue.toJson))]
  | .badValue message =>
      [("error", .text "Invalid Value"), ("detail", .text message), ("type", .text "ValueError")]
  | .failure message =>
      [("error", .text "Runtime Error"), ("detail", .text message),
        ("type", .text "RuntimeError")]
  | .unexpected outage =>
      [("error", .text "Internal Server Error"),
        ("detail", .text "An unexpected error occurred"), ("type", .text outage.kind)]

/-- The response that goes with a refusal, if it can be written. -/
def response (refusal : Refusal) : Http.Response :=
  .document refusal.status (.object refusal.body)

/-- What keeps an issue from being written: first its input, then its details. -/
def unwritableIssue? (issue : Issue) : Option Unwritable :=
  if issue.input.hasUnwritable then some .notFinite
  else if issue.problem.isWritable then none
  else some .notPlain

def unwritable? : Refusal → Option Unwritable
  | .invalidData issues => issues.findSome? unwritableIssue?
  | _ => none

/-- The response, or why there is none. -/
def write (refusal : Refusal) : Except Unwritable Http.Response :=
  match refusal.unwritable? with
  | some reason => .error reason
  | none => .ok refusal.response

end Refusal

end CyberRange
