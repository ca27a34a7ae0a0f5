import CyberRange.Proofs.Shell.Recording
import CyberRange.Proofs.Terminal.Coherence
import CyberRange.Proofs.Text.Words

namespace CyberRange

/-! What is on the screen of a terminal, and what its history says.

A command is put into the history when it starts and shown when it ends, and the screen may
be wiped in between; lines arrive, pages arrive and the lock is handed on in any order.  What
all of this keeps is that the commands that have ended, with what has come of their lines,
are the history up to the one under way, and that the screen shows the newest of their results.
Every one of them has a result if all that the clock raises can be told.
-/

def TranscriptEntry.outcome (entry : TranscriptEntry) : String × CommandResult :=
  (entry.command, { output := entry.output, type := entry.type })

namespace Terminal

namespace Overlap

variable {now : Timestamp} {overlap : Overlap}

/-- The answer that a pick names arrives, and the lock is free for the next. -/
def answered (now : Timestamp) (pick : Nat) (overlap : Overlap) : Overlap :=
  match pickFrom pick overlap.awaiting with
  | none => overlap
  | some (arrived, awaiting) =>
      ({ overlap with awaiting }).finish now arrived.position arrived.line
        (.ok (arrived.download.finish overlap.terminal.processor.network.hosts))

/-- The first that waits for the lock gets it, if it is free. -/
def resumed (now : Timestamp) (overlap : Overlap) : Overlap :=
  match overlap.queue with
  | [] => overlap
  | next :: rest =>
      if overlap.locked then overlap else { overlap.run now next with queue := rest }

/-- The lines of the history whose commands are not under way. -/
def finishedLines (overlap : Overlap) : List String :=
  if overlap.awaiting.isEmpty then overlap.terminal.processor.history.entries
  else overlap.terminal.processor.history.entries.dropLast

end Overlap

/-- What can happen to a terminal, and the time of the system then. -/
inductive Event where
  | submitted (now : Timestamp) (line : String)
  | recalled (direction : Direction)
  | answered (now : Timestamp) (pick : Nat)
  | resumed (now : Timestamp)

/-- A terminal in use: the lines submitted so far and what has become of them, each under
its position. -/
structure Sitting where
  lines : List String
  overlap : Overlap

namespace Sitting

/-- Nothing has been submitted to a terminal over a processor of its own. -/
def begin (created : Timestamp) (files : FileSystem) (network : Network) (clock : Clock) :
    Sitting :=
  { lines := [], overlap := .create (.create created (.create files network clock)) }

def after (sitting : Sitting) : Event → Sitting
  | .submitted now line =>
      { lines := sitting.lines ++ [line],
        overlap := sitting.overlap.arrive now (sitting.lines.length, line) }
  | .recalled direction =>
      { sitting with overlap := { sitting.overlap with
          terminal := (sitting.overlap.terminal.recallLine direction).2 } }
  | .answered now pick => { sitting with overlap := sitting.overlap.answered now pick }
  | .resumed now => { sitting with overlap := sitting.overlap.resumed now }

def afterAll (events : List Event) (sitting : Sitting) : Sitting :=
  events.foldl after sitting

end Sitting

/-- The commands among the lines that have ended, in the order in which they did, with what
has come of their lines. -/
def ended (lines : List String) (results : List Answer) : List (String × Ending) :=
  results.filterMap fun answer =>
    match Request.ofLine (lines.getD answer.1 ""), answer.2 with
    | .run command, some ending => some (command, ending)
    | _, _ => none

/-- The commands that have a result. -/
def resultsOf (finished : List (String × Ending)) : List (String × CommandResult) :=
  finished.filterMap fun (command, ending) => ending.toOption.map (command, ·)

/-- The banner of a terminal, until a line wipes it. -/
def banner (created : Timestamp) (lines : List String) : List TranscriptEntry :=
  if .clear ∈ lines.map Request.ofLine then []
  else [{ command := "", output := welcome, type := .info, timestamp := created }]

/-- What is left of the banner is on the screen, and below it the newest of the results that
there are: all of them, unless a line has wiped some. -/
def Shows (created : Timestamp) (lines : List String) (results : List (String × CommandResult))
    (screen : List TranscriptEntry) : Prop :=
  ∃ blocks, screen = banner created lines ++ blocks ∧
    blocks.map TranscriptEntry.outcome <:+ results ∧
    (.clear ∉ lines.map Request.ofLine → blocks.map TranscriptEntry.outcome = results)

section Shown

variable {created now : Timestamp} {lines : List String} {line command : String}
  {finished : List (String × Ending)} {results : List (String × CommandResult)}
  {screen : List TranscriptEntry}

theorem Shows.append (shows : Shows created lines results screen) (now : Timestamp)
    (command : String) (result : CommandResult) :
    Shows created lines (results ++ [(command, result)])
      (screen ++ [{ command, output := result.output, type := result.type, timestamp := now }]) := by
  obtain ⟨blocks, rfl, newest, whole⟩ := shows
  refine ⟨blocks ++ [{ command, output := result.output, type := result.type, timestamp := now }],
    by rw [List.append_assoc], ?_, fun kept => ?_⟩
  · obtain ⟨older, rfl⟩ := newest
    exact ⟨older, by simp [TranscriptEntry.outcome]⟩
  · rw [← whole kept, List.map_append]
    rfl

theorem resultsOf_append_ok (finished : List (String × Ending)) (command : String)
    (result : CommandResult) :
    resultsOf (finished ++ [(command, .ok result)]) = resultsOf finished ++ [(command, result)] := by
  simp [resultsOf, Except.toOption]

theorem resultsOf_append_escape (finished : List (String × Ending)) (command : String)
    (escape : Escape) : resultsOf (finished ++ [(command, .error escape)]) = resultsOf finished := by
  simp [resultsOf, Except.toOption]

/-- What has come of a command is shown, if it is a result. -/
theorem Shows.display {terminal : Terminal}
    (shows : Shows created lines (resultsOf finished) terminal.transcript) (now : Timestamp)
    (command : String) (ending : Ending) :
    Shows created lines (resultsOf (finished ++ [(command, ending)]))
      (terminal.display now command ending).transcript := by
  cases ending with
  | ok result =>
      rw [resultsOf_append_ok]
      exact shows.append now command result
  | error escape =>
      rw [resultsOf_append_escape]
      exact shows

theorem Shows.submitted (shows : Shows created lines results screen)
    (kept : Request.ofLine line ≠ .clear) : Shows created (lines ++ [line]) results screen := by
  have same : .clear ∈ (lines ++ [line]).map Request.ofLine ↔ .clear ∈ lines.map Request.ofLine := by
    simp [kept.symm]
  obtain ⟨blocks, shown, newest, whole⟩ := shows
  refine ⟨blocks, ?_, newest, fun unwiped => whole (mt same.mpr unwiped)⟩
  rw [shown, banner, banner, if_congr same rfl rfl]

theorem shows_wiped (wiped : Request.ofLine line = .clear) :
    Shows created (lines ++ [line]) results [] := by
  have member : .clear ∈ (lines ++ [line]).map Request.ofLine := by simp [wiped]
  refine ⟨[], ?_, List.nil_suffix, fun unwiped => absurd member unwiped⟩
  rw [banner, if_pos member]
  rfl

theorem getD_append_of_lt {position : Nat} (inside : position < lines.length) :
    (lines ++ [line]).getD position "" = lines.getD position "" := by
  rw [List.getD_eq_getElem?_getD, List.getElem?_append_left inside, List.getD_eq_getElem?_getD]

theorem ended_line {results : List Answer}
    (inside : ∀ answer ∈ results, answer.1 < lines.length) :
    ended (lines ++ [line]) results = ended lines results := by
  refine List.filterMap_congr fun answer member => ?_
  rw [getD_append_of_lt (inside answer member)]

theorem ended_append_none (results : List Answer) (position : Nat) :
    ended lines (results ++ [(position, none)]) = ended lines results := by
  simp [ended]

theorem ended_append_some {position : Nat} (results : List Answer) (ending : Ending)
    (request : Request.ofLine (lines.getD position "") = .run command) :
    ended lines (results ++ [(position, some ending)]) =
      ended lines results ++ [(command, ending)] := by
  simp only [ended, List.filterMap_append, List.filterMap_cons, List.filterMap_nil, request]

end Shown

/-- Nothing has escaped from the lines so far, and the clock will raise nothing that does. -/
structure Unescaped (clock : Clock) (results : List Answer) : Prop where
  tellable : clock.IsTellable
  answers : ∀ answer ∈ results, ∀ escape, answer.2 ≠ some (.error escape)

namespace Unescaped

variable {clock : Clock} {results : List Answer} {processor : Processor}

theorem answer {ending : Option Ending} (unescaped : Unescaped clock results) (position : Nat)
    (told : ∀ escape, ending ≠ some (.error escape)) :
    Unescaped clock (results ++ [(position, ending)]) where
  tellable := unescaped.tellable
  answers := by
    intro answer member
    rcases List.mem_append.mp member with old | new
    · exact unescaped.answers answer old
    · rw [List.mem_singleton.mp new]
      exact told

theorem execute (unescaped : Unescaped processor.clock results) (now : Timestamp) (line : String) :
    Unescaped (processor.execute now line).2.clock results ∧
      ∀ escape, (processor.execute now line).1 ≠ .error escape := by
  obtain ⟨result, told⟩ := Processor.exists_execute_eq_ok unescaped.tellable now line
  refine ⟨⟨Processor.isTellable_execute unescaped.tellable now line, unescaped.answers⟩, ?_⟩
  rw [told]
  exact fun escape escaped => by cases escaped

end Unescaped

/-- The lines submitted so far to a terminal with a given clock, under way or ended, and the
screen of the terminal. -/
structure Follows (created : Timestamp) (clock : Clock) (lines : List String)
    (overlap : Overlap) : Prop where
  single : overlap.awaiting.length ≤ 1
  locked : overlap.locked = true ↔ overlap.awaiting ≠ []
  placed : (overlap.results.map Prod.fst ++ (overlap.awaiting.map Awaiting.position ++
    overlap.queue.map Queued.position)).Perm (List.range lines.length)
  queued : ∀ entry ∈ overlap.queue,
    Request.ofLine (lines.getD entry.position "") = .run entry.command
  waiting : ∀ entry ∈ overlap.awaiting,
    Request.ofLine (lines.getD entry.position "") = .run entry.line
  recorded : overlap.terminal.processor.history.entries =
    (ended lines overlap.results).map Prod.fst ++ overlap.awaiting.map Awaiting.line
  shown : Shows created lines (resultsOf (ended lines overlap.results)) overlap.terminal.transcript
  told : clock.IsTellable → Unescaped overlap.terminal.processor.clock overlap.results

namespace Follows

variable {created now : Timestamp} {clock : Clock} {lines : List String} {line : String}
  {overlap : Overlap}

theorem create (created : Timestamp) (files : FileSystem) (network : Network) (clock : Clock) :
    Follows created clock [] (.create (.create created (.create files network clock))) where
  single := Nat.zero_le 1
  locked := by simp [Overlap.create]
  placed := .refl _
  queued := fun _ member => nomatch member
  waiting := fun _ member => nomatch member
  recorded := rfl
  shown := ⟨[], rfl, List.nil_suffix, fun _ => rfl⟩
  told := fun tellable => ⟨tellable, fun _ member => nomatch member⟩

theorem inside (follows : Follows created clock lines overlap) {position : Nat}
    (member : position ∈ overlap.results.map Prod.fst ++ (overlap.awaiting.map Awaiting.position ++
      overlap.queue.map Queued.position)) : position < lines.length :=
  List.mem_range.mp (follows.placed.mem_iff.mp member)

/-- What is known of the lines so far stays known when another one is submitted. -/
theorem known (follows : Follows created clock lines overlap) (line : String) :
    ended (lines ++ [line]) overlap.results = ended lines overlap.results ∧
    (∀ entry ∈ overlap.queue,
      Request.ofLine ((lines ++ [line]).getD entry.position "") = .run entry.command) ∧
    (∀ entry ∈ overlap.awaiting,
      Request.ofLine ((lines ++ [line]).getD entry.position "") = .run entry.line) := by
  refine ⟨ended_line fun answer member => ?_, fun entry member => ?_, fun entry member => ?_⟩
  · exact follows.inside (List.mem_append_left _ (List.mem_map_of_mem member))
  · rw [getD_append_of_lt (follows.inside _)]
    · exact follows.queued entry member
    · simp only [List.mem_append]
      exact .inr (.inr (List.mem_map_of_mem member))
  · rw [getD_append_of_lt (follows.inside _)]
    · exact follows.waiting entry member
    · simp only [List.mem_append]
      exact .inr (.inl (List.mem_map_of_mem member))

/-- A line that needs no lock is answered at once. -/
theorem answer {terminal : Terminal} (follows : Follows created clock lines overlap)
    (kept : terminal.processor = overlap.terminal.processor)
    (shown : Shows created (lines ++ [line]) (resultsOf (ended lines overlap.results))
      terminal.transcript) :
    Follows created clock (lines ++ [line])
      (({ overlap with terminal } : Overlap).answer lines.length none) := by
  obtain ⟨same, queued, waiting⟩ := follows.known line
  have results : ended (lines ++ [line]) (overlap.results ++ [(lines.length, none)]) =
      ended lines overlap.results := by rw [ended_append_none, same]
  refine ⟨follows.single, follows.locked, ?_, queued, waiting, ?_, ?_, fun tellable => ?_⟩
  · have more := follows.placed.append_right [lines.length]
    simp only [Overlap.answer, List.map_append, List.map_cons, List.map_nil, List.length_append,
      List.length_singleton, List.range_succ]
    refine List.Perm.trans ?_ more
    rw [List.append_assoc, List.append_assoc (overlap.results.map Prod.fst)]
    exact .append_left _ List.perm_append_comm
  · simp only [Overlap.answer, results, kept]
    exact follows.recorded
  · simp only [Overlap.answer, results]
    exact shown
  · simp only [Overlap.answer, kept]
    exact (follows.told tellable).answer lines.length fun _ => (Option.some_ne_none _).symm

theorem enqueue {command : String} (follows : Follows created clock lines overlap)
    (request : Request.ofLine line = .run command) :
    Follows created clock (lines ++ [line])
      { overlap with queue := overlap.queue ++ [{ position := lines.length, command }] } := by
  obtain ⟨same, queued, waiting⟩ := follows.known line
  refine ⟨follows.single, follows.locked, ?_, ?_, waiting, ?_, ?_, fun tellable => ?_⟩
  · have more := follows.placed.append_right [lines.length]
    simpa [List.range_succ] using more
  · intro entry member
    rcases List.mem_append.mp member with old | new
    · exact queued entry old
    · rw [List.mem_singleton.mp new]
      simpa using request
  · rw [same]
    exact follows.recorded
  · rw [same]
    exact follows.shown.submitted (by simp [request])
  · exact follows.told tellable

theorem finish {position : Nat} {command : String} {ending : Ending}
    (free : overlap.awaiting = [])
    (placed : (overlap.results.map Prod.fst ++
      position :: overlap.queue.map Queued.position).Perm (List.range lines.length))
    (queued : ∀ entry ∈ overlap.queue,
      Request.ofLine (lines.getD entry.position "") = .run entry.command)
    (request : Request.ofLine (lines.getD position "") = .run command)
    (recorded : overlap.terminal.processor.history.entries =
      (ended lines overlap.results).map Prod.fst ++ [command])
    (shown : Shows created lines (resultsOf (ended lines overlap.results))
      overlap.terminal.transcript)
    (told : clock.IsTellable → Unescaped overlap.terminal.processor.clock overlap.results ∧
      ∀ escape, ending ≠ .error escape) :
    Follows created clock lines (overlap.finish now position command ending) := by
  have results := ended_append_some overlap.results ending request
  refine ⟨?_, ?_, ?_, queued, ?_, ?_, ?_, fun tellable => ?_⟩
  · simp [Overlap.finish, Overlap.answer, free]
  · simp [Overlap.finish, Overlap.answer, free]
  · simpa [Overlap.finish, Overlap.answer, free] using placed
  · simp [Overlap.finish, Overlap.answer, free]
  · simp only [Overlap.finish, Overlap.answer, processor_display, results, free, List.map_append,
      List.map_cons, List.map_nil, List.append_nil]
    exact recorded
  · simp only [Overlap.finish, Overlap.answer, results]
    exact shown.display now command ending
  · obtain ⟨unescaped, told⟩ := told tellable
    simp only [Overlap.finish, Overlap.answer, processor_display]
    exact unescaped.answer position fun escape same => told escape (Option.some.inj same)

/-- The next command starts: it is recorded, and ends or waits for its page. -/
theorem run {next : Queued} {rest : List Queued} (now : Timestamp)
    (follows : Follows created clock lines { overlap with queue := next :: rest })
    (free : overlap.awaiting = []) :
    Follows created clock lines { overlap.run now next with queue := rest } := by
  obtain ⟨-, -, placed, queued, -, recorded, shown, told⟩ := follows
  have request := queued next List.mem_cons_self
  have later : ∀ entry ∈ rest,
      Request.ofLine (lines.getD entry.position "") = .run entry.command :=
    fun entry member => queued entry (List.mem_cons_of_mem _ member)
  have history : (overlap.terminal.processor.execute now next.command).2.history.entries =
      (ended lines overlap.results).map Prod.fst ++ [next.command] := by
    obtain ⟨trimmed, filled, -⟩ := Request.ofLine_eq_run_iff.mp request
    have words : Text.words next.command ≠ [] := by
      rw [trimmed]
      exact Text.words_strip_ne_nil (trimmed ▸ filled)
    rw [Processor.history_execute_of_words now words, History.append, recorded, free, List.map_nil,
      List.append_nil]
  simp only [free, List.map_nil, List.nil_append, List.map_cons] at placed
  -- The line is in the history from here on: either its result is shown as well, or it is
  -- the one under way.
  rcases Overlap.run_cases now overlap next with ends | ⟨download, waits, -⟩
  · have ended : Follows created clock lines (({ overlap.holding now next.command with
        queue := rest } : Overlap).finish now next.position next.command
          (overlap.terminal.processor.execute now next.command).1) :=
      finish free placed later request history shown fun tellable =>
        (told tellable).execute now next.command
    rw [ends]
    exact ended
  · rw [waits]
    refine ⟨?_, ?_, ?_, later, ?_, ?_, shown, fun tellable => ?_⟩
    · simp [free]
    · simp [Overlap.holding, free]
    · simpa [Overlap.holding, free] using placed
    · simpa [free] using request
    · simpa [Overlap.holding, free] using history
    · exact ((told tellable).execute now next.command).1

theorem arrive (follows : Follows created clock lines overlap) (now : Timestamp) (line : String) :
    Follows created clock (lines ++ [line]) (overlap.arrive now (lines.length, line)) := by
  cases request : Request.ofLine line with
  | nothing =>
      simp only [Overlap.arrive, request]
      exact follows.answer rfl (follows.shown.submitted (by simp [request]))
  | clear =>
      simp only [Overlap.arrive, request]
      exact follows.answer rfl (shows_wiped request)
  | run command =>
      have enqueued := follows.enqueue request
      simp only [Overlap.arrive, request]
      split
      · exact enqueued
      · rename_i starts
        obtain ⟨unlocked, empty⟩ : overlap.locked = false ∧ overlap.queue = [] := by
          simpa using starts
        have free : overlap.awaiting = [] :=
          Decidable.byContradiction fun waits => by simp [follows.locked.mpr waits] at unlocked
        rw [empty, List.nil_append] at enqueued
        have ran := enqueued.run now free
        have whole : { overlap.run now { position := lines.length, command } with queue := [] } =
            overlap.run now { position := lines.length, command } := by
          rw [← empty, ← Overlap.queue_run now overlap]
        rwa [whole] at ran

theorem answered (follows : Follows created clock lines overlap) (now : Timestamp) (pick : Nat) :
    Follows created clock lines (overlap.answered now pick) := by
  rcases Overlap.awaiting_cases follows.single with free | ⟨arrived, waits⟩
  · simpa [Overlap.answered, free, pickFrom] using follows
  · simp only [Overlap.answered, waits, Overlap.pickFrom_singleton]
    have placed := follows.placed
    have recorded := follows.recorded
    simp only [waits, List.map_cons, List.map_nil, List.singleton_append] at placed recorded
    exact finish rfl placed follows.queued (follows.waiting arrived (by simp [waits])) recorded
      follows.shown fun tellable =>
        ⟨follows.told tellable, fun escape escaped => by cases escaped⟩

theorem resumed (follows : Follows created clock lines overlap) (now : Timestamp) :
    Follows created clock lines (overlap.resumed now) := by
  rw [Overlap.resumed]
  split
  · exact follows
  · rename_i next rest queue
    split
    · exact follows
    · rename_i unlocked
      have free : overlap.awaiting = [] :=
        Decidable.byContradiction fun waits => unlocked (follows.locked.mpr waits)
      have whole : { overlap with queue := next :: rest } = overlap := by rw [← queue]
      refine run now ?_ free
      rw [whole]
      exact follows

theorem recalled (follows : Follows created clock lines overlap) (direction : Direction) :
    Follows created clock lines
      { overlap with terminal := (overlap.terminal.recallLine direction).2 } := by
  refine { follows with recorded := ?_, shown := follows.shown, told := ?_ }
  have same : ((overlap.terminal.recallLine direction).2.processor.history.entries) =
      overlap.terminal.processor.history.entries :=
    overlap.terminal.processor.history.entries_recallLine direction
  · rw [same]
    exact follows.recorded
  · exact follows.told

theorem after {sitting : Sitting} (follows : Follows created clock sitting.lines sitting.overlap)
    (event : Event) :
    Follows created clock (sitting.after event).lines (sitting.after event).overlap := by
  cases event with
  | submitted now line =>
      simp only [Sitting.after]
      exact follows.arrive now line
  | recalled direction => exact follows.recalled direction
  | answered now pick => exact follows.answered now pick
  | resumed now => exact follows.resumed now

theorem afterAll {sitting : Sitting} (follows : Follows created clock sitting.lines sitting.overlap)
    (events : List Event) :
    Follows created clock (sitting.afterAll events).lines (sitting.afterAll events).overlap := by
  induction events generalizing sitting with
  | nil => exact follows
  | cons event rest induction => exact induction (follows.after event)

/-- The commands that have ended are those of the history, up to the one under way. -/
theorem finishedLines_eq (follows : Follows created clock lines overlap) :
    overlap.finishedLines = (ended lines overlap.results).map Prod.fst := by
  have recorded := follows.recorded
  rw [Overlap.finishedLines]
  rcases Overlap.awaiting_cases follows.single with free | ⟨arrived, waits⟩
  · rw [recorded]
    simp [free]
  · rw [recorded]
    simp [waits]

/-- Only the lines of commands are recorded, without the blanks around them. -/
theorem exists_ofLine_of_recorded (follows : Follows created clock lines overlap) {command : String}
    (member : command ∈ overlap.terminal.processor.history.entries) :
    ∃ line, Request.ofLine line = .run command := by
  rw [follows.recorded] at member
  rcases List.mem_append.mp member with finished | underway
  · obtain ⟨⟨_, result⟩, inside, rfl⟩ := List.mem_map.mp finished
    obtain ⟨⟨position, answer⟩, -, asked⟩ := List.mem_filterMap.mp inside
    refine ⟨lines.getD position "", ?_⟩
    split at asked
    · rename_i request _
      rw [request, (Prod.mk.inj (Option.some.inj asked)).1]
    · cases asked
  · obtain ⟨entry, inside, rfl⟩ := List.mem_map.mp underway
    exact ⟨_, follows.waiting entry inside⟩

end Follows

/-- The screen and the history of a terminal in use, which was begun with a given clock. -/
structure InStep (created : Timestamp) (clock : Clock) (sitting : Sitting) : Prop where
  single : sitting.overlap.awaiting.length ≤ 1
  busy : sitting.overlap.locked = true ↔ sitting.overlap.awaiting ≠ []
  placed : (sitting.overlap.results.map Prod.fst ++
    (sitting.overlap.awaiting.map Awaiting.position ++
      sitting.overlap.queue.map Queued.position)).Perm (List.range sitting.lines.length)
  finished : sitting.overlap.finishedLines =
    (ended sitting.lines sitting.overlap.results).map Prod.fst
  shown : Shows created sitting.lines (resultsOf (ended sitting.lines sitting.overlap.results))
    sitting.overlap.terminal.transcript
  told : clock.IsTellable → ended sitting.lines sitting.overlap.results =
    (resultsOf (ended sitting.lines sitting.overlap.results)).map fun (command, result) =>
      (command, .ok result)
  trimmed : ∀ line ∈ sitting.overlap.terminal.processor.history.entries,
    line ≠ "" ∧ line ≠ clearLine ∧ Text.strip line = line

/-- If nothing escapes, every command that has ended has a result. -/
theorem ended_eq_of_unescaped {clock : Clock} {results : List Answer} (lines : List String)
    (unescaped : Unescaped clock results) :
    ended lines results =
      (resultsOf (ended lines results)).map fun (command, result) => (command, .ok result) := by
  have told (entry : String × Ending) (member : entry ∈ ended lines results) :
      ∃ result, entry.2 = .ok result := by
    obtain ⟨⟨position, ending⟩, inside, asked⟩ := List.mem_filterMap.mp member
    have kept := unescaped.answers _ inside
    rcases ending with - | escape | result
    · simp at asked
    · exact absurd rfl (kept escape)
    · split at asked
      · rename_i ended
        cases asked
        exact ⟨result, (Option.some.inj ended).symm⟩
      · cases asked
  rw [resultsOf, List.map_filterMap, eq_comm]
  refine Eq.trans (List.filterMap_congr fun entry member => ?_) List.filterMap_some
  obtain ⟨result, same⟩ := told entry member
  simp [same, Except.toOption, Prod.ext_iff]

theorem Follows.inStep {created : Timestamp} {clock : Clock} {sitting : Sitting}
    (follows : Follows created clock sitting.lines sitting.overlap) :
    InStep created clock sitting where
  single := follows.single
  busy := follows.locked
  placed := follows.placed
  finished := follows.finishedLines_eq
  shown := follows.shown
  told := fun tellable => ended_eq_of_unescaped sitting.lines (follows.told tellable)
  trimmed := by
    intro command member
    obtain ⟨line, request⟩ := follows.exists_ofLine_of_recorded member
    obtain ⟨rfl, filled, other⟩ := Request.ofLine_eq_run_iff.mp request
    exact ⟨filled, other, Text.strip_strip line⟩

/-- Whatever happens to a terminal, in any order, its screen shows the newest of the
commands that its history says have ended, with the results that their lines got. -/
theorem screen_in_step (created : Timestamp) (files : FileSystem) (network : Network)
    (clock : Clock) (events : List Event) :
    InStep created clock ((Sitting.begin created files network clock).afterAll events) :=
  ((Follows.create created files network clock).afterAll events).inStep

namespace Overlap

variable {now : Timestamp} {overlap : Overlap}

theorem run_with_queue (now : Timestamp) (overlap : Overlap) (next : Queued)
    (queue : List Queued) :
    ({ overlap with queue } : Overlap).run now next = { overlap.run now next with queue } := by
  simp only [run]
  split
  · rfl
  · rfl
  · split <;> rfl

/-- What waits for the lock is told to `serve`, and not read from the overlap. -/
theorem serve_with_queue (now : Timestamp) (waiting queue : List Queued) (overlap : Overlap) :
    serve now waiting { overlap with queue } = serve now waiting overlap := by
  induction waiting generalizing overlap with
  | nil => rfl
  | cons next rest induction =>
      simp only [serve, run_with_queue]
      rw [induction]

end Overlap

namespace Sitting

variable {now : Timestamp} {lines : List String} {overlap : Overlap}

theorem afterAll_append (first second : List Event) (sitting : Sitting) :
    sitting.afterAll (first ++ second) = (sitting.afterAll first).afterAll second :=
  List.foldl_append

/-- Handing the lock on as far as possible hands it on step by step. -/
theorem exists_events_serve {waiting : List Queued} (now : Timestamp) (lines : List String)
    (queue : overlap.queue = waiting) :
    ∃ events, ({ lines, overlap } : Sitting).afterAll events =
      { lines, overlap := Overlap.serve now waiting overlap } := by
  induction waiting generalizing overlap with
  | nil =>
      refine ⟨[], ?_⟩
      rw [Overlap.serve, ← queue]
      rfl
  | cons next rest induction =>
      rw [Overlap.serve]
      split
      · refine ⟨[], ?_⟩
        rw [← queue]
        rfl
      · rename_i unlocked
        have dequeued : ({ overlap.run now next with queue := rest } : Overlap).queue = rest := rfl
        obtain ⟨events, later⟩ := induction dequeued
        have step : overlap.resumed now = { overlap.run now next with queue := rest } := by
          simp only [Overlap.resumed, queue, if_neg unlocked]
        refine ⟨.resumed now :: events, ?_⟩
        rw [afterAll, List.foldl_cons, after, step]
        rw [Overlap.serve_with_queue] at later
        exact later

theorem exists_events_release (now : Timestamp) (pick : Nat) (lines : List String)
    (overlap : Overlap) :
    ∃ events, ({ lines, overlap } : Sitting).afterAll events =
      { lines, overlap := overlap.release now pick } := by
  rw [Overlap.release]
  split
  · exact ⟨[], rfl⟩
  · rename_i arrived awaiting picked
    have step : overlap.answered now pick = ({ overlap with awaiting } : Overlap).finish now
        arrived.position arrived.line
        (.ok (arrived.download.finish overlap.terminal.processor.network.hosts)) := by
      simp only [Overlap.answered, picked]
    obtain ⟨events, served⟩ :=
      exists_events_serve now lines (Eq.refl (overlap.answered now pick).queue)
    refine ⟨.answered now pick :: events, ?_⟩
    rw [step] at served
    rw [afterAll, List.foldl_cons, after, step]
    exact served

theorem exists_events_stages {picks : List Nat} {stage : Overlap} (lines : List String)
    (member : stage ∈ overlap.stages now picks) :
    ∃ events, ({ lines, overlap } : Sitting).afterAll events = { lines, overlap := stage } := by
  induction picks generalizing overlap with
  | nil =>
      rw [List.mem_singleton.mp member]
      exact ⟨[], rfl⟩
  | cons pick later induction =>
      rw [Overlap.stages] at member
      split at member
      · rw [List.mem_singleton.mp member]
        exact ⟨[], rfl⟩
      · rcases List.mem_cons.mp member with rfl | member
        · exact ⟨[], rfl⟩
        · obtain ⟨first, released⟩ := exists_events_release now pick lines overlap
          obtain ⟨second, reached⟩ := induction member
          exact ⟨first ++ second, by rw [afterAll_append, released, reached]⟩

theorem afterAll_submitted (now : Timestamp) (lines : List String) (sitting : Sitting) :
    sitting.afterAll (lines.map (.submitted now)) =
      { lines := sitting.lines ++ lines,
        overlap := (lines.mapIdx fun index line => (sitting.lines.length + index, line)).foldl
          (Overlap.arrive now) sitting.overlap } := by
  induction lines generalizing sitting with
  | nil =>
      rw [List.append_nil]
      rfl
  | cons line rest induction =>
      rw [List.map_cons, afterAll, List.foldl_cons]
      refine (induction (sitting.after (.submitted now line))).trans ?_
      simp only [after, List.mapIdx_cons, List.foldl_cons, List.length_append,
        List.length_singleton, Nat.add_assoc, Nat.add_comm 1, Nat.add_zero, List.append_assoc,
        List.singleton_append]

/-- What happens to lines that are all submitted before any page arrives is a case of this. -/
theorem exists_events_overlapping {created : Timestamp} {files : FileSystem} {network : Network}
    {clock : Clock} {picks : List Nat} {stage : Overlap}
    (member : stage ∈ (Terminal.create created (.create files network clock)).overlapping now lines
      picks) :
    ∃ events, (begin created files network clock).afterAll events = { lines, overlap := stage } := by
  obtain ⟨events, reached⟩ := exists_events_stages lines member
  refine ⟨lines.map (.submitted now) ++ events, ?_⟩
  rw [afterAll_append, afterAll_submitted]
  simp only [begin, List.length_nil, Nat.zero_add, List.nil_append]
  exact reached

end Sitting

/-- So the screen is in step as well in every state in which nothing runs when lines are
submitted at once. -/
theorem inStep_of_mem_overlapping {created now : Timestamp} {files : FileSystem}
    {network : Network} {clock : Clock} {lines : List String} {picks : List Nat} {stage : Overlap}
    (member : stage ∈ (Terminal.create created (.create files network clock)).overlapping now lines
      picks) :
    InStep created clock { lines, overlap := stage } := by
  obtain ⟨events, reached⟩ := Sitting.exists_events_overlapping member
  rw [← reached]
  exact ((Follows.create created files network clock).afterAll events).inStep

end Terminal

end CyberRange
