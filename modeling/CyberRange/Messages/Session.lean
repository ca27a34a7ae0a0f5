import CyberRange.Registry

namespace CyberRange

/-! What is said about sessions over the network.

Times travel as texts, so a message is plain data whatever calendar is behind it.
-/

structure ScreenBlock where
  command : String
  output : String
  type : String
  timestamp : String
deriving Repr, DecidableEq

namespace ScreenBlock

def ofEntry (entry : TranscriptEntry) : ScreenBlock :=
  { command := entry.command, output := entry.output, type := entry.type.name,
    timestamp := entry.timestamp.iso }

def ofJson (input : Json) : Checked ScreenBlock :=
  ScreenBlock.mk <$> Reader.required input "command" Reader.text
    <*> Reader.required input "output" Reader.text
    <*> Reader.required input "type" Reader.text
    <*> Reader.required input "timestamp" Reader.text

def toJson (block : ScreenBlock) : Json :=
  .object [("command", .text block.command), ("output", .text block.output),
    ("type", .text block.type), ("timestamp", .text block.timestamp)]

end ScreenBlock

structure SessionState where
  sessionId : String
  createdAt : String
  prompt : String
  currentPath : String
  busy : Bool
  historySize : Int
  transcript : List ScreenBlock
deriving Repr, DecidableEq

namespace SessionState

/-- The state of a session in which nothing is under way. -/
def ofSession (session : Session) : SessionState :=
  { sessionId := session.id, createdAt := session.createdAt.iso,
    prompt := session.terminal.prompt,
    currentPath := session.terminal.processor.files.currentPath, busy := false,
    historySize := session.terminal.processor.history.size,
    transcript := session.terminal.transcript.map ScreenBlock.ofEntry }

def ofJson (input : Json) : Checked SessionState :=
  SessionState.mk <$> Reader.required input "session_id" Reader.text
    <*> Reader.required input "created_at" Reader.text
    <*> Reader.required input "prompt" Reader.text
    <*> Reader.required input "current_path" Reader.text
    <*> Reader.required input "busy" Reader.boolean
    <*> Reader.required input "history_size" Reader.integer
    <*> Reader.required input "transcript"
        (Reader.listOf (Reader.record "TranscriptEntryModel" ScreenBlock.ofJson))

def toJson (state : SessionState) : Json :=
  .object [("session_id", .text state.sessionId), ("created_at", .text state.createdAt),
    ("prompt", .text state.prompt), ("current_path", .text state.currentPath),
    ("busy", .bool state.busy), ("history_size", .int state.historySize),
    ("transcript", .list (state.transcript.map ScreenBlock.toJson))]

end SessionState

/-- The ids of all sessions, and how many there may be. -/
structure SessionList where
  sessionIds : List String
  count : Int
  maxSessions : Int
deriving Repr, DecidableEq

namespace SessionList

def ofRegistry (registry : Registry) : SessionList :=
  { sessionIds := registry.sessionIds, count := registry.sessionIds.length,
    maxSessions := registry.capacity }

def ofJson (input : Json) : Checked SessionList :=
  SessionList.mk <$> Reader.required input "session_ids" (Reader.listOf Reader.text)
    <*> Reader.required input "count" Reader.integer
    <*> Reader.required input "max_sessions" Reader.integer

def toJson (list : SessionList) : Json :=
  .object [("session_ids", .ofTexts list.sessionIds), ("count", .int list.count),
    ("max_sessions", .int list.maxSessions)]

end SessionList

structure CommandOrder where
  command : String
deriving Repr, DecidableEq

namespace CommandOrder

/-- The greatest length of a line that is taken over the network. -/
def lengthLimit : Nat := 4096

def ofJson (input : Json) : Checked CommandOrder :=
  CommandOrder.mk <$> Reader.required input "command" (Reader.shortText lengthLimit)

def toJson (order : CommandOrder) : Json :=
  .object [("command", .text order.command)]

end CommandOrder

/-- What became of a submitted line, and the prompt behind it. -/
structure CommandReport where
  command : String
  output : String
  type : String
  executed : Bool
  cleared : Bool
  prompt : String
  currentPath : String
deriving Repr, DecidableEq

namespace CommandReport

/-- The report on a line that a terminal was given, and the terminal behind it. -/
def ofSubmission (line : String) (result : Option CommandResult) (terminal : Console) :
    CommandReport :=
  let command := Text.strip line
  { command,
    output := result.elim "" CommandResult.output,
    type := (result.elim .info CommandResult.type).name,
    executed := result.isSome,
    cleared := result.isNone && command == Terminal.clearLine,
    prompt := terminal.prompt,
    currentPath := terminal.processor.files.currentPath }

def ofJson (input : Json) : Checked CommandReport :=
  CommandReport.mk <$> Reader.required input "command" Reader.text
    <*> Reader.required input "output" Reader.text
    <*> Reader.required input "type" Reader.text
    <*> Reader.required input "executed" Reader.boolean
    <*> Reader.defaulting input "cleared" false Reader.boolean
    <*> Reader.required input "prompt" Reader.text
    <*> Reader.required input "current_path" Reader.text

def toJson (report : CommandReport) : Json :=
  .object [("command", .text report.command), ("output", .text report.output),
    ("type", .text report.type), ("executed", .bool report.executed),
    ("cleared", .bool report.cleared), ("prompt", .text report.prompt),
    ("current_path", .text report.currentPath)]

end CommandReport

structure RecalledLine where
  direction : Direction
  entry : String
deriving Repr, DecidableEq

namespace RecalledLine

def ofJson (input : Json) : Checked RecalledLine :=
  RecalledLine.mk <$> Reader.required input "direction" (Reader.optionOf Direction.family)
    <*> Reader.required input "entry" Reader.text

def toJson (line : RecalledLine) : Json :=
  .object [("direction", .text line.direction.name), ("entry", .text line.entry)]

end RecalledLine

structure Deletion where
  deleted : Bool
  sessionId : String
deriving Repr, DecidableEq

namespace Deletion

def ofJson (input : Json) : Checked Deletion :=
  Deletion.mk <$> Reader.required input "deleted" Reader.boolean
    <*> Reader.required input "session_id" Reader.text

def toJson (deletion : Deletion) : Json :=
  .object [("deleted", .bool deletion.deleted), ("session_id", .text deletion.sessionId)]

end Deletion

end CyberRange
