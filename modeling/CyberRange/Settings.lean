import CyberRange.Registry

namespace CyberRange

/-! Settings of a practice range, from variables of the environment or from a
document. -/

structure Settings where
  latencyMin : Int
  latencyMax : Int
  maxSessions : Int
deriving Repr, DecidableEq

namespace Settings

/-- The longest delay must not be below the shortest. -/
def checkWindow (input : Json) (settings : Settings) : Checked Settings :=
  if settings.latencyMax < settings.latencyMin then
    .fail
      (.rejected ("latency_max_ms (" ++ toString settings.latencyMax ++
        ") must be >= latency_min_ms (" ++ toString settings.latencyMin ++ ")"))
      input
  else .valid settings

def ofJson (input : Json) : Checked Settings :=
  (Settings.mk <$> Reader.defaulting input "latency_min_ms" 200 (Reader.atLeast 0)
    <*> Reader.defaulting input "latency_max_ms" 700 (Reader.atLeast 0)
    <*> Reader.defaulting input "max_sessions" 100 (Reader.atLeast 1)).bind (checkWindow input)

def variableNames : List (String × String) :=
  [("latency_min_ms", "VLAB_LATENCY_MIN_MS"), ("latency_max_ms", "VLAB_LATENCY_MAX_MS"),
    ("max_sessions", "VLAB_MAX_SESSIONS")]

def ofEnvironment (environment : Entries String) : Checked Settings :=
  ofJson <| .object <| variableNames.filterMap fun (field, name) =>
    (Entries.get? name environment).map fun value => (field, .text value)

def latency (settings : Settings) : LatencyBounds :=
  { low := settings.latencyMin, high := settings.latencyMax }

def toJson (settings : Settings) : Json :=
  .object [("latency_min_ms", .int settings.latencyMin),
    ("latency_max_ms", .int settings.latencyMax), ("max_sessions", .int settings.maxSessions)]

def registry (settings : Settings) : Except InvalidCapacity Registry :=
  Registry.create settings.maxSessions settings.latency

end Settings

end CyberRange
