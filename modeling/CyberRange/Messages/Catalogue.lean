import CyberRange.Network.Lookup

namespace CyberRange

/-! What is said about hosts and about the service itself. -/

structure FlawEntry where
  type : String
  parameter : String
  severity : String
  description : String
deriving Repr, DecidableEq

namespace FlawEntry

def ofVulnerability (flaw : Vulnerability) : FlawEntry :=
  { type := flaw.type, parameter := flaw.parameter, severity := flaw.severity.name,
    description := flaw.description }

def ofJson (input : Json) : Checked FlawEntry :=
  FlawEntry.mk <$> Reader.required input "type" Reader.text
    <*> Reader.required input "parameter" Reader.text
    <*> Reader.required input "severity" Reader.text
    <*> Reader.required input "description" Reader.text

def toJson (flaw : FlawEntry) : Json :=
  .object [("type", .text flaw.type), ("parameter", .text flaw.parameter),
    ("severity", .text flaw.severity), ("description", .text flaw.description)]

end FlawEntry

structure TargetEntry where
  host : String
  ip : String
  ports : List Int
  vulnerabilities : List FlawEntry
  endpoints : List String
deriving Repr, DecidableEq

namespace TargetEntry

def ofTarget (host : String) (target : Target) : TargetEntry :=
  { host, ip := target.ip, ports := target.ports,
    vulnerabilities := target.vulnerabilities.map FlawEntry.ofVulnerability,
    endpoints := Text.sortBy id (Entries.keys target.endpoints) }

def ofJson (input : Json) : Checked TargetEntry :=
  TargetEntry.mk <$> Reader.required input "host" Reader.text
    <*> Reader.required input "ip" Reader.text
    <*> Reader.required input "ports" (Reader.listOf Reader.integer)
    <*> Reader.required input "vulnerabilities"
        (Reader.listOf (Reader.record "VulnerabilityModel" FlawEntry.ofJson))
    <*> Reader.required input "endpoints" (Reader.listOf Reader.text)

def toJson (entry : TargetEntry) : Json :=
  .object [("host", .text entry.host), ("ip", .text entry.ip),
    ("ports", .list (entry.ports.map .int)),
    ("vulnerabilities", .list (entry.vulnerabilities.map FlawEntry.toJson)),
    ("endpoints", .ofTexts entry.endpoints)]

end TargetEntry

structure TargetList where
  targets : List TargetEntry
  count : Int
deriving Repr, DecidableEq

namespace TargetList

def ofHosts (hosts : Hosts) : TargetList :=
  { targets := hosts.map fun (host, target) => .ofTarget host target, count := hosts.length }

def ofJson (input : Json) : Checked TargetList :=
  TargetList.mk <$> Reader.required input "targets"
      (Reader.listOf (Reader.record "TargetModel" TargetEntry.ofJson))
    <*> Reader.required input "count" Reader.integer

def toJson (list : TargetList) : Json :=
  .object [("targets", .list (list.targets.map TargetEntry.toJson)), ("count", .int list.count)]

end TargetList

structure ErrorReport where
  error : String
  detail : String
  type : Option String
  details : Option (Entries Json)

namespace ErrorReport

def ofJson (input : Json) : Checked ErrorReport :=
  ErrorReport.mk <$> Reader.required input "error" Reader.text
    <*> Reader.required input "detail" Reader.text
    <*> Reader.defaulting input "type" none (Reader.orNull Reader.text)
    <*> Reader.defaulting input "details" none
        (Reader.orNull (Reader.mappingOf Reader.anything))

def toJson (report : ErrorReport) : Json :=
  .object [("error", .text report.error), ("detail", .text report.detail),
    ("type", .ofText? report.type),
    ("details", match report.details with
      | none => .null
      | some fields => .object fields)]

end ErrorReport

structure Health where
  status : String
  version : String
deriving Repr, DecidableEq

namespace Health

def ofJson (input : Json) : Checked Health :=
  Health.mk <$> Reader.required input "status" Reader.text
    <*> Reader.required input "version" Reader.text

def toJson (health : Health) : Json :=
  .object [("status", .text health.status), ("version", .text health.version)]

end Health

end CyberRange
