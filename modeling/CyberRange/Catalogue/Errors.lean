import CyberRange.Catalogue.Arguments
import CyberRange.Client.Fault
import CyberRange.Registry

namespace CyberRange

/-! The errors that are named in the interface: what each is made from, what it
keeps, and how it reads. -/

inductive ErrorArea where
  | engine
  | sessions
  | client
deriving Repr, DecidableEq

structure ErrorForm where
  area : ErrorArea
  name : String
  /-- The more general errors that it is one of, the nearest first. -/
  ancestors : List String
  /-- The error whose parameters it has. -/
  maker : String
  parameters : List Parameter
  /-- What it keeps of the arguments. -/
  attributes : Entries Json → Entries Json
  message : Entries Json → String

namespace ErrorForm

def needed (name : String) : Parameter := { name, fallback := none }

def optional (name : String) : Parameter := { name, fallback := some .null }

def valueOf (name : String) (values : Entries Json) : Json :=
  (Entries.get? name values).getD .null

def textOf (name : String) (values : Entries Json) : String :=
  (valueOf name values).display

/-- A text unless the value is null. -/
def textOf? (name : String) (values : Entries Json) : Option String :=
  match valueOf name values with
  | .null => none
  | value => some value.display

def statusOf (values : Entries Json) : Int :=
  match valueOf "status_code" values with
  | .int status => status
  | _ => 0

def command (name : String) (ancestors : List String) (maker : String)
    (parameters : List Parameter) : ErrorForm :=
  { area := .engine, name, ancestors, maker, parameters, attributes := id,
    message := textOf "message" }

def commandErrors : List ErrorForm :=
  [command "LabCommandError" [] "LabCommandError" [needed "message"],
    command "UsageError" ["LabCommandError"] "LabCommandError" [needed "message"],
    command "PathNotFoundError" ["LabCommandError"] "PathNotFoundError"
      [needed "message", needed "path"],
    command "WrongTypeError" ["LabCommandError"] "WrongTypeError"
      [needed "message", needed "path"]]

def sessionErrors : List ErrorForm :=
  [{ area := .sessions, name := "SessionNotFoundError", ancestors := [],
     maker := "SessionNotFoundError", parameters := [needed "session_id"], attributes := id,
     message := fun values => RegistryFault.unknownText (textOf "session_id" values) },
    { area := .sessions, name := "SessionLimitError", ancestors := [],
      maker := "SessionLimitError", parameters := [needed "max_sessions"], attributes := id,
      message := fun values => RegistryFault.limitText (textOf "max_sessions" values) }]

/-- The error that the values of an error answer describe. -/
def apiError (kind : ApiErrorKind) (status : Int) (values : Entries Json) : ApiError :=
  { kind, status, message := textOf "message" values,
    label := kind.label (valueOf "error_type" values),
    details := valueOf "details" values, body := valueOf "response_body" values }

def apiAttributes (status : Json) (kind : ApiErrorKind) (values : Entries Json) : Entries Json :=
  [("message", valueOf "message" values), ("status_code", status),
    ("error_type", kind.label (valueOf "error_type" values)),
    ("details", valueOf "details" values), ("response_body", valueOf "response_body" values)]

/-- An error answer whose status is fixed. -/
def fixedStatus (name : String) (kind : ApiErrorKind) (status : Int) : ErrorForm :=
  { area := .client, name, ancestors := ["APIError", "LabClientError"], maker := name,
    parameters := [needed "message", optional "details", optional "response_body"],
    attributes := apiAttributes (.int status) kind,
    message := fun values => (apiError kind status values).text }

/-- An error answer that is told its status. -/
def givenStatus (name : String) (ancestors : List String) (kind : ApiErrorKind)
    (parameters : List Parameter) : ErrorForm :=
  { area := .client, name, ancestors, maker := name, parameters,
    attributes := fun values => apiAttributes (valueOf "status_code" values) kind values,
    message := fun values => (apiError kind (statusOf values) values).text }

def clientErrors : List ErrorForm :=
  [{ area := .client, name := "LabClientError", ancestors := [], maker := "LabClientError",
     parameters := [needed "message"], attributes := id, message := textOf "message" },
    { area := .client, name := "ConnectionError", ancestors := ["LabClientError"],
      maker := "ConnectionError",
      parameters := [needed "message", optional "url", optional "cause"], attributes := id,
      message := fun values =>
        (CallFault.unreachable (textOf "message" values) (textOf? "url" values) none).message },
    { area := .client, name := "TimeoutError", ancestors := ["LabClientError"],
      maker := "TimeoutError",
      parameters := [needed "message", optional "timeout", optional "url"], attributes := id,
      message := fun values =>
        (CallFault.timedOut (textOf "message" values) (valueOf "timeout" values)
          (textOf? "url" values)).message },
    givenStatus "APIError" ["LabClientError"] .plain
      [needed "message", needed "status_code", optional "error_type", optional "details",
        optional "response_body"],
    fixedStatus "ValidationError" .validation 422,
    fixedStatus "NotFoundError" .notFound 404,
    fixedStatus "ConflictError" .conflict 409,
    givenStatus "ServerError" ["APIError", "LabClientError"] .server
      [needed "message", { name := "status_code", fallback := some (.int 500) },
        optional "details", optional "response_body"]]

def all : List ErrorForm :=
  commandErrors ++ sessionErrors ++ clientErrors

def find? (area : ErrorArea) (name : String) : Option ErrorForm :=
  all.find? fun form => form.area = area && form.name == name

/-- Its own name and those of its ancestors. -/
def lineage (form : ErrorForm) : List String :=
  form.name :: form.ancestors

def complaint (form : ErrorForm) (fault : ArgumentFault) : String :=
  form.maker ++ ".__init__() " ++ fault.message

end ErrorForm

end CyberRange
