import CyberRange.Validation.Reader

namespace CyberRange

/-! Simulated hosts. -/

inductive Severity where
  | low
  | medium
  | high
  | critical
deriving Repr, DecidableEq

def Severity.name : Severity → String
  | .low => "low"
  | .medium => "medium"
  | .high => "high"
  | .critical => "critical"

def Severity.family : List (String × Severity) :=
  [("low", .low), ("medium", .medium), ("high", .high), ("critical", .critical)]

structure Vulnerability where
  type : String
  parameter : String
  severity : Severity
  description : String
deriving Repr, DecidableEq

/-- A host with its open ports in report order and canned answers by path. -/
structure Target where
  ip : String
  ports : List Int
  vulnerabilities : List Vulnerability
  endpoints : Entries String
deriving Repr, DecidableEq

namespace Vulnerability

def ofJson (input : Json) : Checked Vulnerability :=
  Vulnerability.mk <$> Reader.required input "type" Reader.text
    <*> Reader.required input "parameter" Reader.text
    <*> Reader.required input "severity" (Reader.optionOf Severity.family)
    <*> Reader.required input "description" Reader.text

def toJson (flaw : Vulnerability) : Json :=
  .object [("type", .text flaw.type), ("parameter", .text flaw.parameter),
    ("severity", .text flaw.severity.name), ("description", .text flaw.description)]

end Vulnerability

namespace Target

def ofJson (input : Json) : Checked Target :=
  Target.mk <$> Reader.required input "ip" Reader.text
    <*> Reader.required input "ports" (Reader.tupleOf Reader.integer)
    <*> Reader.defaulting input "vulnerabilities" []
        (Reader.tupleOf (Reader.record "Vulnerability" Vulnerability.ofJson))
    <*> Reader.defaulting input "endpoints" [] (Reader.mappingOf Reader.text)

def toJson (target : Target) : Json :=
  .object [("ip", .text target.ip), ("ports", .list (target.ports.map .int)),
    ("vulnerabilities", .list (target.vulnerabilities.map Vulnerability.toJson)),
    ("endpoints", .object (target.endpoints.map fun (path, body) => (path, .text body)))]

end Target

/-- Hosts by the address that their answers are fetched from. -/
abbrev Hosts := Entries Target

namespace Hosts

def bank : Target where
  ip := "192.168.1.10"
  ports := [80, 8080, 22]
  vulnerabilities :=
    [{ type := "IDOR", parameter := "id", severity := .high,
       description := "Insecure Direct Object Reference in user profile" },
     { type := "SQL Injection", parameter := "username", severity := .critical,
       description := "SQLi in login form" }]
  endpoints :=
    [("/", "<html><body><h1>Welcome to Vulnerable Bank</h1><a href=\"/login\">Login</a></body></html>"),
     ("/login", "<html><body><form action=\"/auth\" method=\"POST\"><input name=\"username\"><input name=\"password\"></form></body></html>"),
     ("/api/users", "\x7b\"users\": [\x7b\"id\": 1, \"name\": \"admin\"\x7d, \x7b\"id\": 2, \"name\": \"user\"\x7d]\x7d")]

def shop : Target where
  ip := "192.168.1.20"
  ports := [80, 443, 8080, 3306]
  vulnerabilities :=
    [{ type := "XSS", parameter := "search", severity := .medium,
       description := "Reflected XSS in search bar" },
     { type := "Command Injection", parameter := "ip", severity := .critical,
       description := "OS Command Injection in ping tool" }]
  endpoints :=
    [("/", "<html><body><h1>Vulnerable Shop</h1><input name=\"search\"></body></html>"),
     ("/admin", "403 Forbidden")]

/-- The hosts of every practice network. -/
def standard : Hosts :=
  [("http://vulnerable-bank.lab:8080", bank), ("http://shop.vulnerable.lab:8080", shop)]

end Hosts

end CyberRange
