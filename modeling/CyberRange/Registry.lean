import CyberRange.Session

namespace CyberRange

/-! The sessions of all learners, by id, in the order of their creation. -/

structure InvalidCapacity where
  given : Int
deriving Repr, DecidableEq

def InvalidCapacity.message (invalid : InvalidCapacity) : String :=
  "max_sessions must be at least 1, got " ++ toString invalid.given

structure Registry where
  capacity : Nat
  capacity_pos : 1 ≤ capacity
  latency : LatencyBounds
  sessions : Entries Session

inductive RegistryFault where
  | unknownSession (id : String)
  | limitReached (capacity : Nat)
  | invalidLatency (invalid : InvalidLatency)
  | unknownDirection (unknown : UnknownDirection)

def RegistryFault.unknownText (id : String) : String :=
  "Session '" ++ id ++ "' not found"

def RegistryFault.limitText (capacity : String) : String :=
  "Session limit of " ++ capacity ++ " reached"

def RegistryFault.message : RegistryFault → String
  | .unknownSession id => unknownText id
  | .limitReached capacity => limitText (toString capacity)
  | .invalidLatency invalid => invalid.message
  | .unknownDirection unknown => unknown.message

namespace Registry

def standardCapacity : Int := 100

/-- An empty registry.  The bounds of the delays are looked at only when a session
is created. -/
def create (capacity : Int) (latency : LatencyBounds) : Except InvalidCapacity Registry :=
  if positive : 1 ≤ capacity then
    .ok { capacity := capacity.toNat, capacity_pos := by omega, latency, sessions := [] }
  else .error { given := capacity }

def size (registry : Registry) : Nat :=
  registry.sessions.length

def contains (id : String) (registry : Registry) : Bool :=
  Entries.has id registry.sessions

def sessionIds (registry : Registry) : List String :=
  Entries.keys registry.sessions

def get (id : String) (registry : Registry) : Except RegistryFault Session :=
  match Entries.get? id registry.sessions with
  | some session => .ok session
  | none => .error (.unknownSession id)

def put (session : Session) (registry : Registry) : Registry :=
  { registry with sessions := Entries.put session.id session registry.sessions }

def register (now : Timestamp) (ids : IdSource) (registry : Registry) :
    Except RegistryFault (Session × Registry) × IdSource :=
  if registry.capacity ≤ registry.size then (.error (.limitReached registry.capacity), ids)
  else
    match Session.build now none registry.latency ids with
    | (.error invalid, later) => (.error (.invalidLatency invalid), later)
    | (.ok session, later) => (.ok (session, registry.put session), later)

def reset (now : Timestamp) (id : String) (registry : Registry) :
    Except RegistryFault (Session × Registry) :=
  match registry.get id with
  | .error fault => .error fault
  | .ok _ =>
      match registry.latency.window with
      | .error invalid => .error (.invalidLatency invalid)
      | .ok latency =>
          let session := Session.create now id latency
          .ok (session, registry.put session)

def delete (id : String) (registry : Registry) : Except RegistryFault Registry :=
  match registry.get id with
  | .error fault => .error fault
  | .ok _ => .ok { registry with sessions := Entries.erase id registry.sessions }

def clear (registry : Registry) : Registry :=
  { registry with sessions := [] }

def withTerminal (id : String) (terminal : Console) (registry : Registry) : Registry :=
  { registry with
    sessions := Entries.adjust id (fun session => { session with terminal }) registry.sessions }

def submit (now : Timestamp) (id line : String) (registry : Registry) :
    Except RegistryFault (Option CommandResult × Registry) :=
  match registry.get id with
  | .error fault => .error fault
  | .ok session =>
      let (result, terminal) := session.terminal.submit now line
      .ok (result, registry.withTerminal id terminal)

def recallLine (id : String) (direction : Direction) (registry : Registry) :
    Except RegistryFault (String × Registry) :=
  match registry.get id with
  | .error fault => .error fault
  | .ok session =>
      let (line, terminal) := session.terminal.recallLine direction
      .ok (line, registry.withTerminal id terminal)

/-- Recalls in a direction given by its name. -/
def navigate (id : String) (given : Json) (registry : Registry) :
    Except RegistryFault (String × Registry) :=
  match registry.get id with
  | .error fault => .error fault
  | .ok _ =>
      match Direction.read given with
      | .error unknown => .error (.unknownDirection unknown)
      | .ok direction => registry.recallLine id direction

end Registry

end CyberRange
