import CyberRange.Terminal.Console

namespace CyberRange

/-! A session: one learner's terminal under an id, with nothing shared. -/

/-- Hands out ids.  They come from outside; only their order is known here. -/
structure IdSource where
  issued : Nat
  idAt : Nat → String

namespace IdSource

def numbered (number : Nat) : String :=
  "00000000-0000-0000-0000-" ++ String.ofList (Text.hexDigits 12 number)

def fresh : IdSource := { issued := 0, idAt := numbered }

def take (ids : IdSource) : String × IdSource :=
  (ids.idAt (ids.issued + 1), { ids with issued := ids.issued + 1 })

end IdSource

/-- The two numbers given as a window of delays, fit for one or not. -/
structure LatencyBounds where
  low : Int
  high : Int
deriving Repr, DecidableEq

namespace LatencyBounds

def standard : LatencyBounds := { low := 200, high := 700 }

def instant : LatencyBounds := { low := 0, high := 0 }

def window (bounds : LatencyBounds) : Except InvalidLatency Latency :=
  Latency.ofBounds bounds.low bounds.high

def toJson (bounds : LatencyBounds) : Json :=
  .list [.int bounds.low, .int bounds.high]

end LatencyBounds

structure Session where
  id : String
  createdAt : Timestamp
  terminal : Console

namespace Session

def create (now : Timestamp) (id : String) (latency : Latency) : Session :=
  { id, createdAt := now, terminal := .create now latency }

/-- The wanted id if it is not empty, else a new one. -/
def chooseId (wanted : Option String) (ids : IdSource) : String × IdSource :=
  match wanted with
  | some id => if id = "" then ids.take else (id, ids)
  | none => ids.take

/-- A session with given bounds of its delays.  Its id is taken before the bounds
are looked at, so bad bounds cost an id. -/
def build (now : Timestamp) (wanted : Option String) (bounds : LatencyBounds) (ids : IdSource) :
    Except InvalidLatency Session × IdSource :=
  let (id, later) := chooseId wanted ids
  (bounds.window.map fun latency => create now id latency, later)

def snapshot (session : Session) : Json :=
  .object (session.terminal.snapshot false ++
    [("session_id", .text session.id), ("created_at", .text session.createdAt.iso)])

end Session

end CyberRange
