import CyberRange.Shell.Overlap
import CyberRange.Terminal

namespace CyberRange.Terminal

/-! Lines submitted at once to one terminal.

A lock lets one command run at a time; the others queue for it in the order in
which they came.  Wiping the screen and blank lines do not need it.
-/

structure Queued where
  position : Nat
  command : String
deriving Repr, DecidableEq

structure Overlap where
  terminal : Terminal
  locked : Bool
  /-- What waits for the lock, the oldest first. -/
  queue : List Queued
  /-- What waits for a page, the oldest first. -/
  awaiting : List Awaiting
  /-- What has come of lines so far, each under its position. -/
  results : List (Nat × Option Ending)

namespace Overlap

def create (terminal : Terminal) : Overlap :=
  { terminal, locked := false, queue := [], awaiting := [], results := [] }

def answer (position : Nat) (ending : Option Ending) (overlap : Overlap) : Overlap :=
  { overlap with results := overlap.results ++ [(position, ending)] }

/-- Gives the lock back and displays what has come of the command that held it. -/
def finish (now : Timestamp) (position : Nat) (command : String) (ending : Ending)
    (overlap : Overlap) : Overlap :=
  ({ overlap with
      terminal := overlap.terminal.display now command ending
      locked := false }).answer position (some ending)

/-- Runs a command under the lock until it waits or ends. -/
def run (now : Timestamp) (overlap : Overlap) (entry : Queued) : Overlap :=
  let (progress, processor) := overlap.terminal.processor.start now entry.command
  let later := { overlap with terminal := { overlap.terminal with processor }, locked := true }
  match progress with
  | .error escape => later.finish now entry.position entry.command (.error escape)
  | .ok (.finished result) => later.finish now entry.position entry.command (.ok result)
  | .ok (.fetching download) =>
      if processor.network.isDelayed then
        { later with
          awaiting := overlap.awaiting ++
            [{ position := entry.position, line := entry.command, download }] }
      else
        later.finish now entry.position entry.command
          (.ok (download.finish processor.network.hosts))

def arrive (now : Timestamp) (overlap : Overlap) (entry : Nat × String) : Overlap :=
  match Request.ofLine entry.2 with
  | .nothing => overlap.answer entry.1 none
  | .clear => ({ overlap with terminal := overlap.terminal.wipe }).answer entry.1 none
  | .run command =>
      let queued : Queued := { position := entry.1, command }
      if overlap.locked || !overlap.queue.isEmpty then
        { overlap with queue := overlap.queue ++ [queued] }
      else overlap.run now queued

/-- Hands the lock on as long as it is free and somebody waits for it. -/
def serve (now : Timestamp) : List Queued → Overlap → Overlap
  | [], overlap => { overlap with queue := [] }
  | next :: rest, overlap =>
      if overlap.locked then { overlap with queue := next :: rest }
      else serve now rest (overlap.run now next)

/-- The answer that a pick names arrives; then everything runs that can. -/
def release (now : Timestamp) (pick : Nat) (overlap : Overlap) : Overlap :=
  match pickFrom pick overlap.awaiting with
  | none => overlap
  | some (arrived, awaiting) =>
      let freed := ({ overlap with awaiting }).finish now arrived.position arrived.line
        (.ok (arrived.download.finish overlap.terminal.processor.network.hosts))
      serve now freed.queue freed

/-- The states in which nothing runs: the given one, and one after each answer. -/
def stages (now : Timestamp) : List Nat → Overlap → List Overlap
  | [], overlap => [overlap]
  | pick :: later, overlap =>
      if overlap.awaiting.isEmpty then [overlap]
      else overlap :: stages now later (overlap.release now pick)

end Overlap

/-- All lines arrive in order before any answer does. -/
def arriveAll (now : Timestamp) (lines : List String) (terminal : Terminal) : Overlap :=
  (lines.mapIdx fun position line => (position, line)).foldl (Overlap.arrive now)
    (.create terminal)

/-- The states in which nothing runs when all lines are submitted at once. -/
def overlapping (now : Timestamp) (lines : List String) (picks : List Nat)
    (terminal : Terminal) : List Overlap :=
  (terminal.arriveAll now lines).stages now picks

end CyberRange.Terminal
