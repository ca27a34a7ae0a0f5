import CyberRange.FileTree.FileSystem
import CyberRange.FileTree.Seed
import CyberRange.History
import CyberRange.Shell.Clock
import CyberRange.Shell.Download
import CyberRange.Shell.Verb

namespace CyberRange

/-! Executing command lines.

A command either ends at once or waits for the answer to a request; `start` goes
up to that point and `execute` beyond it.  Every line that holds a word is
recorded before anything else happens, and every failure of a command is caught.
-/

inductive Failure where
  | usage (message : String)
  | file (fault : FileFault)
  | clock (fault : Fault)
  | delay (fault : DelayFault)

/-- A failure as it is caught; what a command refuses by itself is meant for the user. -/
def Failure.fault : Failure → Fault
  | .usage message => .forUser (.ok (.text message))
  | .file fault => .forUser (.ok (.text fault.message))
  | .clock fault => fault
  | .delay fault => .other fault.kind (.ok fault.message)

/-- What is made of a failure of a command. -/
def Failure.ending (failure : Failure) : Ending :=
  failure.fault.ending

structure Processor where
  files : FileSystem
  network : Network
  history : History
  clock : Clock

/-- How far a command has come: it is done, or it waits for a page. -/
inductive Progress where
  | finished (result : CommandResult)
  | fetching (download : Download)
deriving Repr, DecidableEq

namespace Processor

def create (files : FileSystem) (network : Network) (clock : Clock) : Processor :=
  { files, network, history := .empty, clock }

def fresh (now : Timestamp) (latency : Latency) (random : Feed Float) : Processor :=
  create (.atHome (.seed now)) (.create .standard latency random) .system

def readClock (now : Timestamp) (processor : Processor) : Except Fault Timestamp × Processor :=
  let (reading, clock) := processor.clock.read now
  (reading, { processor with clock })

abbrev Outcome := Except Failure CommandResult

def list (words : List String) (processor : Processor) : Outcome :=
  match processor.files.list (words.headD ".") with
  | .ok nodes => .ok (.success (Report.listing nodes))
  | .error fault => .error (.file fault)

theorem list_eq (words : List String) (processor : Processor) :
    processor.list words =
      match (processor.files.resolve (words.headD ".")).bind Node.children with
      | none => .error (.file ⟨.list, .notFound, words.headD "."⟩)
      | some members => .ok (.success (Report.listing (members.map Prod.snd))) := by
  rw [list, FileSystem.list]
  cases (processor.files.resolve (words.headD ".")).bind Node.children <;> rfl

def enter (words : List String) (processor : Processor) : Outcome × Processor :=
  match processor.files.enter (words.headD "~") with
  | .ok files => (.ok (.success ""), { processor with files })
  | .error fault => (.error (.file fault), processor)

def read (words : List String) (processor : Processor) : Outcome :=
  match words with
  | [] => .error (.usage "cat: missing file operand")
  | path :: _ =>
      match processor.files.read path with
      | .ok content => .ok (.success content)
      | .error fault => .error (.file fault)

/-- Sets the time of the directory at a path to the time of the clock. -/
def stamp (now : Timestamp) (path : String) (processor : Processor) : Outcome × Processor :=
  match processor.readClock now with
  | (.error fault, later) => (.error (.clock fault), later)
  | (.ok time, later) =>
      (.ok (.success ""),
        { later with files := later.files.change path fun node => { node with modified := time } })

def createFile (now : Timestamp) (path : String) (processor : Processor) : Outcome × Processor :=
  match processor.files.write now path "" with
  | .ok (_, files) => (.ok (.success ""), { processor with files })
  | .error fault => (.error (.file fault), processor)

/-- A directory gets a new time; anything else becomes an empty file. -/
def touch (now : Timestamp) (words : List String) (processor : Processor) : Outcome × Processor :=
  match words with
  | [] => (.error (.usage "touch: missing file operand"), processor)
  | path :: _ =>
      if (processor.files.resolve path).any Node.isDirectory then processor.stamp now path
      else processor.createFile now path

def scanHost (now : Timestamp) (query : String) (processor : Processor) : Outcome × Processor :=
  match processor.network.hosts.search query with
  | none => (.ok (.error Report.hostDown), processor)
  | some target =>
      match processor.readClock now with
      | (.error fault, later) => (.error (.clock fault), later)
      | (.ok time, later) =>
          (.ok (.success
            (Report.scan time query target.ip (processor.network.hosts.scan query).ports)), later)

def scan (now : Timestamp) (words : List String) (processor : Processor) : Outcome × Processor :=
  match words with
  | [] => (.ok (.error "nmap: missing target specification"), processor)
  | [query] => processor.scanHost now query
  | _ :: _ :: _ => (.error (.usage "nmap: only one target specification is supported"), processor)

/-- The test is canned; only its times come from the clock. -/
def inject (now : Timestamp) (words : List String) (processor : Processor) : Outcome × Processor :=
  match words.dropWhile (· ≠ "-u") with
  | [] => (.ok (.error "sqlmap: missing url parameter (-u)"), processor)
  | [_] => (.ok (.error "sqlmap: missing url"), processor)
  | _ :: _ :: _ =>
      match processor.readClock now with
      | (.error fault, later) => (.error (.clock fault), later)
      | (.ok started, later) =>
          match later.readClock now with
          | (.error fault, last) => (.error (.clock fault), last)
          | (.ok ended, last) => (.ok (.success (Report.injection started ended)), last)

/-- Begins to fetch a page; the delay is drawn at once. -/
def fetch (words : List String) (processor : Processor) :
    Except Failure Progress × Processor :=
  match Download.ofArguments words with
  | .error refusal => (.ok (.finished (.error refusal.message)), processor)
  | .ok download =>
      let (drawn, network) := processor.network.draw
      match drawn with
      | .error fault => (.error (.delay fault), { processor with network })
      | .ok () => (.ok (.fetching download), { processor with network })

/-- How far a command comes by itself without waiting. -/
def attempt (now : Timestamp) (verb : Verb) (words : List String) (processor : Processor) :
    Except Failure Progress × Processor :=
  let ended (step : Outcome × Processor) := (step.1.map Progress.finished, step.2)
  match verb with
  | .help => (.ok (.finished (.info Report.help)), processor)
  | .ls => ended (processor.list words, processor)
  | .cd => ended (processor.enter words)
  | .pwd => (.ok (.finished (.success processor.files.currentPath)), processor)
  | .cat => ended (processor.read words, processor)
  | .touch => ended (processor.touch now words)
  | .whoami => (.ok (.finished (.success operatorName)), processor)
  | .nmap => ended (processor.scan now words)
  | .curl => processor.fetch words
  | .sqlmap => ended (processor.inject now words)

/-- A failure is caught, and the result is made of it if there is one to be made. -/
def caught : Except Failure Progress → Except Escape Progress
  | .ok progress => .ok progress
  | .error failure => failure.ending.map .finished

/-- Runs a command as far as it goes without waiting. -/
def dispatch (now : Timestamp) (verb : Verb) (words : List String) (processor : Processor) :
    Except Escape Progress × Processor :=
  let (progress, later) := processor.attempt now verb words
  (caught progress, later)

def record (line : String) (processor : Processor) : Processor :=
  { processor with history := processor.history.append line }

/-- Starts a command line.  One without words does nothing. -/
def start (now : Timestamp) (line : String) (processor : Processor) :
    Except Escape Progress × Processor :=
  match Text.words line with
  | [] => (.ok (.finished (.info "")), processor)
  | name :: words =>
      match Verb.ofName? name with
      | none => (.ok (.finished (.error (name ++ ": command not found"))), processor.record line)
      | some verb => (processor.record line).dispatch now verb words

end Processor

def Progress.result (hosts : Hosts) : Progress → CommandResult
  | .finished result => result
  | .fetching download => download.finish hosts

namespace Processor

def execute (now : Timestamp) (line : String) (processor : Processor) : Ending × Processor :=
  let (progress, later) := processor.start now line
  (progress.map fun reached => reached.result later.network.hosts, later)

/-- A line without words does nothing; any other is recorded first, and then the command
that it names is run, if there is one. -/
theorem execute_cases (now : Timestamp) (line : String) (processor : Processor) :
    (Text.words line = [] ∧ processor.execute now line = (.ok (.info ""), processor)) ∨
      (∃ name words, Text.words line = name :: words ∧ Verb.ofName? name = none ∧
        processor.execute now line =
          (.ok (.error (name ++ ": command not found")), processor.record line)) ∨
      ∃ verb words, Text.words line = Verb.name verb :: words ∧
        processor.execute now line =
          (((processor.record line).dispatch now verb words).1.map fun reached =>
              reached.result ((processor.record line).dispatch now verb words).2.network.hosts,
            ((processor.record line).dispatch now verb words).2) := by
  cases parts : Text.words line with
  | nil => exact .inl ⟨rfl, by simp only [execute, start, parts]; rfl⟩
  | cons name words =>
      cases known : Verb.ofName? name with
      | none =>
          refine .inr (.inl ⟨name, words, rfl, known, ?_⟩)
          simp only [execute, start, parts, known]
          rfl
      | some verb =>
          have named : verb.name = name := by
            rw [Verb.ofName?] at known
            exact eq_of_beq (List.find?_some (p := fun verb : Verb => verb.name == name) known)
          refine .inr (.inr ⟨verb, words, by rw [named], ?_⟩)
          simp only [execute, start, parts, known]

def recallLine (direction : Direction) (processor : Processor) : String × Processor :=
  let (line, history) := processor.history.recallLine direction
  (line, { processor with history })

end Processor

end CyberRange
