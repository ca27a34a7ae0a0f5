import CyberRange.Network.Target

namespace CyberRange

/-! What the hosts of a network answer.

A scan finds a host by its address or by a part of its key, in the order of the
hosts; a fetch finds it by the longest key that starts the URL.
-/

namespace Text

/-- Whether the whole holds the part as a run of consecutive characters. -/
def occursIn (part : List Char) : List Char → Bool
  | [] => part.isEmpty
  | c :: rest => part.isPrefixOf (c :: rest) || occursIn part rest

def startsWith (whole start : String) : Bool :=
  start.toList.isPrefixOf whole.toList

end Text

structure PortInfo where
  port : Int
  state : String
  service : String
deriving Repr, DecidableEq

/-- A scan tells about a host or why there is nothing to tell. -/
structure ScanResult where
  ip : Option String
  ports : List PortInfo
  os : Option String
  error : Option String
deriving Repr, DecidableEq

structure NetworkResponse where
  status : Int
  statusText : String
  data : String
  headers : Entries String
  host : Option String
deriving Repr, DecidableEq

def ScanResult.isUp (result : ScanResult) : Bool :=
  result.error.isNone

def NetworkResponse.resolved (response : NetworkResponse) : Bool :=
  response.host.isSome

def services : List (Int × String) :=
  [(21, "ftp"), (22, "ssh"), (80, "http"), (443, "https"), (3306, "mysql"),
    (8080, "http-proxy")]

def serviceOf (port : Int) : String :=
  (services.lookup port).getD "unknown"

namespace Hosts

def matchesQuery (query : String) (key : String) (target : Target) : Bool :=
  target.ip == query || Text.occursIn query.toList key.toList

/-- The first host whose address is the query or whose key holds it. -/
def search (hosts : Hosts) (query : String) : Option Target :=
  if query = "" then none
  else (hosts.find? fun (key, target) => matchesQuery query key target).map Prod.snd

def scan (hosts : Hosts) (query : String) : ScanResult :=
  match hosts.search query with
  | none => { ip := none, ports := [], os := none, error := some "Host down or unreachable" }
  | some target =>
      { ip := some target.ip,
        ports := target.ports.map fun port =>
          { port, state := "open", service := serviceOf port },
        os := some "Linux 5.4.0-42-generic", error := none }

/-- Of two keys the longer one; of equally long ones the earlier. -/
def longer (best : Option String) (key : String) : Option String :=
  match best with
  | none => some key
  | some found => if found.length < key.length then some key else best

/-- The longest key that the URL starts with. -/
def hostOf (hosts : Hosts) (url : String) : Option String :=
  ((Entries.keys hosts).filter fun key => Text.startsWith url key).foldl longer none

/-- What is left of the URL behind the key, at least a slash. -/
def endpointOf (url key : String) : String :=
  let rest := url.toList.drop key.length
  if rest.isEmpty then "/" else String.ofList rest

def answer (hosts : Hosts) (url : String) : NetworkResponse :=
  match hosts.hostOf url with
  | none =>
      { status := 404, statusText := "Not Found", data := "DNS_PROBE_FINISHED_NXDOMAIN",
        headers := [], host := none }
  | some key =>
      match (Entries.get? key hosts).bind fun target =>
          Entries.get? (endpointOf url key) target.endpoints with
      | some body =>
          { status := 200, statusText := "OK", data := body,
            headers := [("Content-Type", "text/html"), ("Server", "Apache/2.4.41")],
            host := some key }
      | none =>
          { status := 404, statusText := "Not Found", data := "404 Not Found",
            headers := [("Content-Type", "text/html")], host := some key }

end Hosts

namespace PortInfo

def ofJson (input : Json) : Checked PortInfo :=
  PortInfo.mk <$> Reader.required input "port" Reader.integer
    <*> Reader.defaulting input "state" "open" Reader.text
    <*> Reader.required input "service" Reader.text

def toJson (info : PortInfo) : Json :=
  .object [("port", .int info.port), ("state", .text info.state),
    ("service", .text info.service)]

end PortInfo

namespace ScanResult

def ofJson (input : Json) : Checked ScanResult :=
  ScanResult.mk <$> Reader.defaulting input "ip" none (Reader.orNull Reader.text)
    <*> Reader.defaulting input "ports" []
        (Reader.listOf (Reader.record "PortInfo" PortInfo.ofJson))
    <*> Reader.defaulting input "os" none (Reader.orNull Reader.text)
    <*> Reader.defaulting input "error" none (Reader.orNull Reader.text)

def toJson (result : ScanResult) : Json :=
  .object [("ip", .ofText? result.ip), ("ports", .list (result.ports.map PortInfo.toJson)),
    ("os", .ofText? result.os), ("error", .ofText? result.error)]

end ScanResult

namespace NetworkResponse

def ofJson (input : Json) : Checked NetworkResponse :=
  NetworkResponse.mk <$> Reader.required input "status" Reader.integer
    <*> Reader.required input "status_text" Reader.text
    <*> Reader.required input "data" Reader.text
    <*> Reader.defaulting input "headers" [] (Reader.mappingOf Reader.text)
    <*> Reader.defaulting input "host" none (Reader.orNull Reader.text)

def toJson (response : NetworkResponse) : Json :=
  .object [("status", .int response.status), ("status_text", .text response.statusText),
    ("data", .text response.data),
    ("headers", .object (response.headers.map fun (name, value) => (name, .text value))),
    ("host", .ofText? response.host)]

end NetworkResponse

end CyberRange
