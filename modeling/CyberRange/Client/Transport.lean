import CyberRange.Client.Retry
import CyberRange.Service.Handler

namespace CyberRange

/-! Connections that a client can be tried out with. -/

/-- The outcomes of the attempts to come, used up one by one. -/
abbrev Script := List (Except TransportFault Http.Response)

namespace Script

def exhausted : Http.Response :=
  { status := 599, content := .ofText "script exhausted", location := none }

def send : Transport Script
  | _, [] => (.ok exhausted, [])
  | _, outcome :: rest => (outcome, rest)

end Script

/-- A connection to a service in the same process. -/
def Service.connection (now : Timestamp) : Transport Service :=
  fun request service =>
    let (response, later) := service.handle now request
    (.ok response, later)

end CyberRange
