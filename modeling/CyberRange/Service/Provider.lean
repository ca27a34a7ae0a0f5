import CyberRange.Service.Refusal
import CyberRange.Settings

namespace CyberRange

/-! Where the service has its registry from. -/

/-- There is no shared registry yet, or there is one, or getting it fails. -/
inductive Provider where
  | uninitialized
  | shared (registry : Registry)
  | failing (outage : Outage)

namespace Provider

def uninitializedMessage : String :=
  "SessionRegistry not initialized. Call initialize_session_registry() first."

def get : Provider → Except Refusal Registry
  | .uninitialized => .error (.failure uninitializedMessage)
  | .shared registry => .ok registry
  | .failing outage => .error (.ofOutage outage)

def ofSettings (settings : Settings) : Except InvalidCapacity Provider :=
  settings.registry.map .shared

end Provider

/-- The running service: its registry and the ids it hands out. -/
structure Service where
  provider : Provider
  ids : IdSource

namespace Service

def create (provider : Provider) : Service :=
  { provider, ids := .fresh }

def sessions (service : Service) : Entries Session :=
  match service.provider with
  | .shared registry => registry.sessions
  | _ => []

def share (registry : Registry) (service : Service) : Service :=
  { service with provider := .shared registry }

inductive StartFault where
  | invalidSettings (issues : List Issue)
  | invalidCapacity (invalid : InvalidCapacity)

def start (settings : Checked Settings) (service : Service) : Except StartFault Service :=
  match settings with
  | .invalid issues => .error (.invalidSettings issues)
  | .valid found =>
      match Provider.ofSettings found with
      | .error invalid => .error (.invalidCapacity invalid)
      | .ok provider => .ok { service with provider }

/-- Drops all sessions and shares nothing any longer. -/
def stop (service : Service) : Service :=
  { service with provider := .uninitialized }

end Service

end CyberRange
