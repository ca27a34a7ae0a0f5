import CyberRange.Shell.Processor

namespace CyberRange

/-! Command lines that overlap.

All lines are started in order.  One that waits for a page lets the next one
start, and the answers arrive in any order.  A pick names the awaited page whose
answer arrives next by its age; a pick beyond the newest means the newest.
-/

/-- The item at an index, or the last one if the list ends before, and the rest. -/
def pickFrom (pick : Nat) (items : List α) : Option (α × List α) :=
  let index := min pick (items.length - 1)
  items[index]?.map fun item => (item, items.eraseIdx index)

structure Awaiting where
  position : Nat
  line : String
  download : Download
deriving Repr, DecidableEq

/-- Picks that always take the oldest of at most `count`. -/
def oldestFirst (count : Nat) : List Nat :=
  List.replicate count 0

/-- Picks that always take the newest of at most `count`. -/
def newestFirst (count : Nat) : List Nat :=
  List.replicate count count

namespace Processor

/-- Lines under way over one processor that nothing guards. -/
structure Overlap where
  processor : Processor
  /-- What waits for a page, the oldest first. -/
  awaiting : List Awaiting
  /-- What has come of lines so far, each under its position. -/
  results : List (Nat × Ending)

namespace Overlap

def create (processor : Processor) : Overlap :=
  { processor, awaiting := [], results := [] }

def finish (position : Nat) (ending : Ending) (overlap : Overlap) : Overlap :=
  { overlap with results := overlap.results ++ [(position, ending)] }

/-- Starts a line; without a delay the answer to a request is there at once. -/
def start (now : Timestamp) (overlap : Overlap) (entry : Nat × String) : Overlap :=
  let (progress, processor) := overlap.processor.start now entry.2
  let later := { overlap with processor }
  match progress with
  | .error escape => later.finish entry.1 (.error escape)
  | .ok (.finished result) => later.finish entry.1 (.ok result)
  | .ok (.fetching download) =>
      if processor.network.isDelayed then
        { later with
          awaiting := overlap.awaiting ++ [{ position := entry.1, line := entry.2, download }] }
      else later.finish entry.1 (.ok (download.finish processor.network.hosts))

/-- The answer that a pick names arrives. -/
def release (pick : Nat) (overlap : Overlap) : Overlap :=
  match pickFrom pick overlap.awaiting with
  | none => overlap
  | some (arrived, awaiting) =>
      ({ overlap with awaiting }).finish arrived.position
        (.ok (arrived.download.finish overlap.processor.network.hosts))

/-- The states in which nothing runs: the given one, and one after each answer. -/
def stages : List Nat → Overlap → List Overlap
  | [], overlap => [overlap]
  | pick :: later, overlap =>
      if overlap.awaiting.isEmpty then [overlap]
      else overlap :: stages later (overlap.release pick)

end Overlap

def startAll (now : Timestamp) (lines : List String) (processor : Processor) : Overlap :=
  (lines.mapIdx fun position line => (position, line)).foldl (Overlap.start now)
    (.create processor)

/-- The states in which nothing runs when all lines are started at once. -/
def overlapping (now : Timestamp) (lines : List String) (picks : List Nat)
    (processor : Processor) : List Overlap :=
  (processor.startAll now lines).stages picks

/-- The lines executed one after the other. -/
def executeAll (now : Timestamp) : List String → Processor → List Ending × Processor
  | [], processor => ([], processor)
  | line :: rest, processor =>
      let (ending, next) := processor.execute now line
      let (endings, last) := executeAll now rest next
      (ending :: endings, last)

end Processor

end CyberRange
