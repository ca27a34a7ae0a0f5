import CyberRange.Shell.Processor

namespace CyberRange

/-! A terminal: a prompt over a processor, and a transcript of what is on the
screen. -/

/-- A block of output under the line that produced it; a banner has no line. -/
structure TranscriptEntry where
  command : String
  output : String
  type : ResultType
  timestamp : Timestamp
deriving Repr, DecidableEq

namespace TranscriptEntry

/-- An entry as a document, with its time written by `stamp`. -/
def toJsonWith (stamp : Timestamp → String) (entry : TranscriptEntry) : Json :=
  .object [("command", .text entry.command), ("output", .text entry.output),
    ("type", .text entry.type.name), ("timestamp", .text (stamp entry.timestamp))]

def toJson (entry : TranscriptEntry) : Json :=
  entry.toJsonWith Timestamp.iso

def ofJson (now : Timestamp) (input : Json) : Checked TranscriptEntry :=
  TranscriptEntry.mk <$> Reader.defaulting input "command" "" Reader.text
    <*> Reader.required input "output" Reader.text
    <*> Reader.required input "type" (Reader.caseOf ResultType.family)
    <*> Reader.defaulting input "timestamp" now Reader.moment

end TranscriptEntry

structure Terminal where
  processor : Processor
  transcript : List TranscriptEntry

namespace Terminal

def welcome : String :=
  "Cyber Coach Terminal v2.0\nType \"help\" for available commands."

def clearLine : String := "clear"

def create (now : Timestamp) (processor : Processor) : Terminal :=
  { processor,
    transcript := [{ command := "", output := welcome, type := .info, timestamp := now }] }

/-- What a line typed at the prompt, without the blanks around it, asks for. -/
inductive Request where
  | nothing
  | clear
  | run (command : String)
deriving Repr, DecidableEq

def Request.ofLine (line : String) : Request :=
  let command := Text.strip line
  if command = "" then .nothing
  else if command = clearLine then .clear
  else .run command

/-- The current directory as the prompt shows it, with home shortened. -/
def shownPath (path : String) : String :=
  if path = FileSystem.homePath then "~"
  else if Text.startsWith path (FileSystem.homePath ++ "/") then
    "~" ++ String.ofList (path.toList.drop FileSystem.homePath.length)
  else path

def hostName : String := "cyber-coach"

def prompt (terminal : Terminal) : String :=
  operatorName ++ "@" ++ hostName ++ ":" ++ shownPath terminal.processor.files.currentPath ++ "$"

def append (now : Timestamp) (command : String) (result : CommandResult) (terminal : Terminal) :
    Terminal :=
  { terminal with
    transcript := terminal.transcript ++
      [{ command, output := result.output, type := result.type, timestamp := now }] }

/-- A result is put on the screen, and what escapes is not. -/
def display (now : Timestamp) (command : String) (ending : Ending) (terminal : Terminal) :
    Terminal :=
  match ending with
  | .ok result => terminal.append now command result
  | .error _ => terminal

@[simp] theorem processor_display (now : Timestamp) (command : String) (ending : Ending)
    (terminal : Terminal) :
    (terminal.display now command ending).processor = terminal.processor := by
  cases ending <;> rfl

def wipe (terminal : Terminal) : Terminal :=
  { terminal with transcript := [] }

/-- Runs a line typed at the prompt when nothing else is under way. -/
def submit (now : Timestamp) (line : String) (terminal : Terminal) :
    Option Ending × Terminal :=
  match Request.ofLine line with
  | .nothing => (none, terminal)
  | .clear => (none, terminal.wipe)
  | .run command =>
      let (ending, processor) := terminal.processor.execute now command
      (some ending, ({ terminal with processor }).display now command ending)

def submitAll (now : Timestamp) : List String → Terminal → List (Option Ending) × Terminal
  | [], terminal => ([], terminal)
  | line :: rest, terminal =>
      let (ending, next) := terminal.submit now line
      let (endings, last) := submitAll now rest next
      (ending :: endings, last)

def recallLine (direction : Direction) (terminal : Terminal) : String × Terminal :=
  let (line, processor) := terminal.processor.recallLine direction
  (line, { terminal with processor })

def snapshot (busy : Bool) (terminal : Terminal) : List (String × Json) :=
  [("prompt", .text terminal.prompt),
    ("current_path", .text terminal.processor.files.currentPath),
    ("busy", .bool busy),
    ("history_size", .int terminal.processor.history.size),
    ("transcript", .list (terminal.transcript.map TranscriptEntry.toJson))]

end Terminal

end CyberRange
