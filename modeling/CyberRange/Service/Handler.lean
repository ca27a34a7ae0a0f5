import CyberRange.Messages.Catalogue
import CyberRange.Messages.Session
import CyberRange.Service.Provider
import CyberRange.Service.Route

namespace CyberRange.Service

/-! Answering requests.

A request for sessions is looked at in a fixed order: is its content a document
at all, is there a registry, are its data valid, and only then is anything done.
A refusal at any of these steps leaves the service as it is.
-/

def version : String := "0.1.0"

def welcomeBody : Json :=
  .object [("message", .text "Welcome to the Virtual Lab Engine API"),
    ("version", .text version), ("docs_url", .text "/docs")]

def pageBody : Page → Json
  | .welcome => welcomeBody
  | .health => ({ status := "healthy", version } : Health).toJson
  | .targets => (TargetList.ofHosts .standard).toJson

/-- A response that says in one line why there is no other. -/
def plain (status : Int) (detail : String) : Http.Response :=
  .document status (.object [("detail", .text detail)])

/-- A report of issues in the data of a request; one that cannot be written is a
bad value itself. -/
def report (issues : List Issue) : Http.Response :=
  if issues.any fun issue => issue.input.hasUnwritable then
    (Refusal.badValue Unwritable.notFinite.message).response
  else .document 422 (.object [("detail", .list (issues.map Issue.toJson))])

/-- The line in the content of a request.  No content and a null are the same. -/
def readLine : Http.Content → Checked String
  | .empty => .invalid [{ problem := .missing, place := [], input := .null }]
  | .document .null => .invalid [{ problem := .missing, place := [], input := .null }]
  | .document (.object fields) => (CommandOrder.ofJson (.object fields)).map CommandOrder.command
  | .document value => .fail .notBody value
  | .malformed _ text => .fail .notBody (.text text)
  | .text text => .fail .notBody (.text text)

/-- The direction in a query: of several the last one, else up. -/
def readDirection (items : List (String × String)) : Checked Direction :=
  match items.reverse.lookup "direction" with
  | none => .valid .up
  | some given => Reader.optionOf Direction.family (.text given)

inductive Order where
  | create
  | list
  | describe (id : String)
  | delete (id : String)
  | execute (id line : String)
  | recallLine (id : String) (direction : Direction)
  | reset (id : String)
deriving Repr, DecidableEq

def Order.ofRequest (request : Http.Request) : Task → Checked Order
  | .create => .valid .create
  | .list => .valid .list
  | .describe id => .valid (.describe id)
  | .delete id => .valid (.delete id)
  | .execute id => ((readLine request.content).map (.execute id)).under (.key "body")
  | .recallLine id =>
      (((readDirection request.url.queryItems).map (.recallLine id)).under (.key "direction")).under
        (.key "query")
  | .reset id => .valid (.reset id)

def readsContent : Task → Bool
  | .execute _ => true
  | _ => false

/-- A content that was to be a document and is none is refused before all else. -/
def refuseContent : Http.Content → Option Http.Response
  | .malformed malformed _ =>
      match malformed.defect with
      | .tooManyDigits _ | .tooDeep _ => some (plain 400 "There was an error parsing the body")
      | defect =>
          some (report [{ problem := .notJson defect,
                          place := [.key "body", .index malformed.offset],
                          input := .object [] }])
  | _ => none

def refuse (fault : RegistryFault) : Http.Response :=
  (Refusal.ofRegistryFault fault).response

def carryOut (now : Timestamp) (registry : Registry) (service : Service) :
    Order → Http.Response × Service
  | .create =>
      match registry.register now service.ids with
      | (.error fault, ids) => (refuse fault, { service with ids })
      | (.ok (session, next), ids) =>
          (.document 201 (SessionState.ofSession session).toJson,
            { provider := .shared next, ids })
  | .list => (.document 200 (SessionList.ofRegistry registry).toJson, service)
  | .describe id =>
      match registry.get id with
      | .error fault => (refuse fault, service)
      | .ok session => (.document 200 (SessionState.ofSession session).toJson, service)
  | .delete id =>
      match registry.delete id with
      | .error fault => (refuse fault, service)
      | .ok next =>
          (.document 200 ({ deleted := true, sessionId := id } : Deletion).toJson,
            service.share next)
  | .execute id line =>
      match registry.get id with
      | .error fault => (refuse fault, service)
      | .ok session =>
          let (result, terminal) := session.terminal.submit now line
          (.document 200 (CommandReport.ofSubmission line result terminal).toJson,
            service.share (registry.withTerminal id terminal))
  | .recallLine id direction =>
      match registry.recallLine id direction with
      | .error fault => (refuse fault, service)
      | .ok (entry, next) =>
          (.document 200 ({ direction, entry } : RecalledLine).toJson, service.share next)
  | .reset id =>
      match registry.reset now id with
      | .error fault => (refuse fault, service)
      | .ok (session, next) =>
          (.document 200 (SessionState.ofSession session).toJson, service.share next)

/-- Carries a task out on a registry if the data of its request are valid. -/
def perform (now : Timestamp) (registry : Registry) (request : Http.Request) (task : Task)
    (service : Service) : Http.Response × Service :=
  match Order.ofRequest request task with
  | .invalid issues => (report issues, service)
  | .valid order => service.carryOut now registry order

/-- What keeps a request from being looked at in the first place. -/
def refusedContent (request : Http.Request) (task : Task) : Option Http.Response :=
  if readsContent task then refuseContent request.content else none

def serve (now : Timestamp) (request : Http.Request) (task : Task) (service : Service) :
    Http.Response × Service :=
  match refusedContent request task with
  | some response => (response, service)
  | none =>
      match service.provider.get with
      | .error refusal => (refusal.response, service)
      | .ok registry => service.perform now registry request task

/-- The target of a redirection to another spelling of a path. -/
def redirectTarget (url : Url) (path : String) : String :=
  String.ofList <| Url.encodeWhere Url.keptInLocation <|
    url.origin.toList ++ path.toList ++
      match url.rawQuery with
      | none => []
      | some query => if query = "" then [] else '?' :: query.toList

def handle (now : Timestamp) (request : Http.Request) (service : Service) :
    Http.Response × Service :=
  match Route.ofRequest request.method request.url.path with
  | .nowhere => (plain 404 "Not Found", service)
  | .wrongMethod => (plain 405 "Method Not Allowed", service)
  | .elsewhere path =>
      ({ status := 307, content := .empty, location := some (redirectTarget request.url path) },
        service)
  | .found (.page page) => (.document 200 (pageBody page), service)
  | .found (.task task) => service.serve now request task

end CyberRange.Service
