import CyberRange.Http.Message
import CyberRange.Json.Display
import CyberRange.Validation.Issue

namespace CyberRange

/-! What can go wrong with a call to the service. -/

inductive ApiErrorKind where
  | plain
  | validation
  | notFound
  | conflict
  | server
deriving Repr, DecidableEq

namespace ApiErrorKind

def ofStatus (status : Int) : ApiErrorKind :=
  if status = 404 then .notFound
  else if status = 409 then .conflict
  else if status = 422 then .validation
  else if 500 ≤ status then .server
  else .plain

/-- The label of a class; a plain error has the one that its answer gave. -/
def label (given : Json) : ApiErrorKind → Json
  | .plain => given
  | .validation => .text "validation_error"
  | .notFound => .text "not_found"
  | .conflict => .text "conflict"
  | .server => .text "server_error"

end ApiErrorKind

structure ApiError where
  kind : ApiErrorKind
  status : Int
  message : String
  label : Json
  details : Json
  body : Json

/-- Status and label in front of the message; an empty label is left away. -/
def ApiError.text (error : ApiError) : String :=
  "[HTTP " ++ toString error.status ++ "] " ++
    (if error.label.isFilled then "[" ++ error.label.display ++ "] " else "") ++ error.message

inductive DetailFault where
  | notFields (kind : String)
  | emptyList
  | emptyText
  | notParts (kind : String)
  | keyed
  | tooDeep (inObject : Bool)
deriving Repr, DecidableEq

def DetailFault.message : DetailFault → String
  | .notFields kind => "'" ++ kind ++ "' object has no attribute 'get'"
  | .emptyList => "list index out of range"
  | .emptyText => "string index out of range"
  | .notParts kind => "'" ++ kind ++ "' object is not subscriptable"
  | .keyed => "-1"
  | .tooDeep inObject => (Json.Defect.tooDeep inObject).message

structure TransportFault where
  kind : String
  message : String
deriving Repr, DecidableEq

namespace TransportFault

def isTimeout (fault : TransportFault) : Bool :=
  ["TimeoutException", "ConnectTimeout", "ReadTimeout", "WriteTimeout", "PoolTimeout"].contains
    fault.kind

def isUnreachable (fault : TransportFault) : Bool :=
  fault.kind = "ConnectError"

/-- Whether another attempt may help. -/
def isTransient (fault : TransportFault) : Bool :=
  fault.isTimeout || fault.isUnreachable

end TransportFault

inductive CallFault where
  | unreachable (message : String) (url : Option String) (cause : Option String)
  | timedOut (message : String) (timeout : Json) (url : Option String)
  | api (error : ApiError)
  /-- A failure of the connection that is passed on as it is. -/
  | transport (fault : TransportFault)
  | unreadableError (fault : DetailFault)
  | notDocument (malformed : Json.Malformed)
  /-- The document of the answer is no record of the name. -/
  | notRecord (record : String) (kind : String)
  | invalidReply (issues : List Issue)
  | invalidUrl (fault : Url.Fault)
  | notFinite
  | noAttempt
  | endlessWait

namespace CallFault

def withExtras (message : String) (extras : List String) : String :=
  if extras.isEmpty then message
  else message ++ " (" ++ String.intercalate ", " extras ++ ")"

/-- An address as an extra, unless there is none or an empty one. -/
def urlExtra (url : Option String) : List String :=
  match url with
  | none => []
  | some "" => []
  | some address => ["url: " ++ address]

def timeoutExtra : Json → List String
  | .null => []
  | timeout => ["timeout: " ++ timeout.display ++ "s"]

def message : CallFault → String
  | .unreachable message url _ => withExtras message (urlExtra url)
  | .timedOut message timeout url => withExtras message (timeoutExtra timeout ++ urlExtra url)
  | .api error => error.text
  | .transport fault => fault.message
  | .unreadableError fault => fault.message
  | .notDocument malformed => malformed.defect.message
  | .notRecord record kind =>
      record ++ "() argument after ** must be a mapping, not " ++ kind
  | .invalidReply issues => String.intercalate "; " (issues.map fun issue => issue.problem.message)
  | .invalidUrl fault => fault.message
  | .notFinite => "Out of range float values are not JSON compliant"
  | .noAttempt => "Unexpected error in request retry loop"
  | .endlessWait => "int too large to convert to float"

end CallFault

end CyberRange
