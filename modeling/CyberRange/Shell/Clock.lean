import CyberRange.Network.Latency
import CyberRange.Shell.Result

namespace CyberRange

/-! The clock that reports are stamped with, and the failures that it may raise.

A clock is read step by step and may fail.  The one that nothing else is said
about shows the time of the system, which is an argument of every operation.
A failure becomes a result if there is a text to show for it; nothing makes sure
of that, so it may also escape.
-/

/-- A failure from outside, by what can be had of it. -/
inductive Fault where
  /-- Meant for the user: the message is shown as it is, if there is one to be had. -/
  | forUser (message : Except Fault Json)
  /-- Any other: a kind, and the text that it prints as, if it can be printed. -/
  | other (kind : String) (printed : Except Fault String)

/-- What leaves a command in place of a result. -/
inductive Escape where
  /-- No result can be made of the message of a failure. -/
  | rejected (issues : List Issue)
  /-- One failure has raised another while it was being told. -/
  | raised (fault : Fault)

/-- What comes of a command. -/
abbrev Ending := Except Escape CommandResult

instance (ending : Ending) (result : CommandResult) : Decidable (ending = .ok result) :=
  match ending with
  | .ok found => decidable_of_iff (found = result) ⟨congrArg _, Except.ok.inj⟩
  | .error _ => .isFalse nofun

/-- Whether there is a result, and not one that reports an error. -/
def Ending.succeeds : Ending → Bool
  | .ok result => !result.isError
  | .error _ => false

/-- What is made of a failure that is caught; one without a text shows its kind. -/
def Fault.ending : Fault → Ending
  | .forUser (.ok message) =>
      match CommandResult.errorOf message with
      | .valid result => .ok result
      | .invalid issues => .error (.rejected issues)
  | .forUser (.error fault) => .error (.raised fault)
  | .other kind (.ok text) => .ok (.error (if text = "" then kind else text))
  | .other _ (.error fault) => .error (.raised fault)

inductive Clock where
  /-- Shows the time of the system. -/
  | system
  /-- Gives what it is told to give. -/
  | scripted (readings : Feed (Except Fault Timestamp))

/-- One reading at a moment of the system's time. -/
def Clock.read (now : Timestamp) : Clock → Except Fault Timestamp × Clock
  | .system => (.ok now, .system)
  | .scripted readings =>
      let (reading, later) := readings.take
      (reading, .scripted later)

end CyberRange
