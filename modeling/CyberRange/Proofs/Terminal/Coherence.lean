import CyberRange.Proofs.Terminal.InTurn

namespace CyberRange.Terminal.Overlap

/-! The answers of overlapping lines, those there are and those to come.

The lock lets at most one command wait for a page, so what is still to come is
known: that of the awaited page first, then those of the queue in its order.
`Coherent` says that the answers so far, followed by those to come, are the ones
that the lines get when they are submitted in turn.  A command that starts, waits
or ends only moves an answer from the ones to come to the ones there are.
-/

variable {now : Timestamp} {lines : List String} {screen : List TranscriptEntry}
  {expected : List Answer} {last : Terminal} {overlap : Overlap}

/-- The answers that a queue of commands will get, and the processor behind them. -/
def ahead (now : Timestamp) : List Queued → Processor → List Answer × Processor
  | [], processor => ([], processor)
  | next :: rest, processor =>
      let (ending, later) := processor.execute now next.command
      let (answers, final) := ahead now rest later
      ((next.position, some ending) :: answers, final)

/-- The answer that a command gets when its page is there. -/
def awaited (hosts : Hosts) (waiting : Awaiting) : Answer :=
  (waiting.position, some (.ok (waiting.download.finish hosts)))

/-- All answers to come: first the awaited ones, then those of the queue. -/
def pending (now : Timestamp) (overlap : Overlap) : List Answer :=
  overlap.awaiting.map (awaited overlap.terminal.processor.network.hosts) ++
    (ahead now overlap.queue overlap.terminal.processor).1

/-- The overlap of lines that get the expected answers and leave a processor like that
of `last`; `screen` is what was shown at the start. -/
structure Coherent (now : Timestamp) (lines : List String) (screen : List TranscriptEntry)
    (expected : List Answer) (last : Terminal) (overlap : Overlap) : Prop where
  single : overlap.awaiting.length ≤ 1
  locked : overlap.locked = true ↔ overlap.awaiting ≠ []
  commands : (overlap.results ++ overlap.pending now).filter Answer.isCommand =
    expected.filter Answer.isCommand
  others : overlap.results.filter (fun answer => !Answer.isCommand answer) =
    expected.filter fun answer => !Answer.isCommand answer
  processor : (ahead now overlap.queue overlap.terminal.processor).2 = last.processor
  shown : overlap.terminal.transcript = overlap.results.foldl (screenAfter now lines) screen
  queued : ∀ entry ∈ overlap.queue,
    Request.ofLine (lines.getD entry.position "") = .run entry.command
  waiting : ∀ entry ∈ overlap.awaiting,
    Request.ofLine (lines.getD entry.position "") = .run entry.line

/-- A coherent overlap in which nothing can run. -/
structure Settled (now : Timestamp) (lines : List String) (screen : List TranscriptEntry)
    (expected : List Answer) (last : Terminal) (overlap : Overlap) : Prop extends
    Coherent now lines screen expected last overlap where
  idle : overlap.awaiting = [] → overlap.queue = []

theorem ahead_append (now : Timestamp) (front back : List Queued) (processor : Processor) :
    ahead now (front ++ back) processor =
      ((ahead now front processor).1 ++ (ahead now back (ahead now front processor).2).1,
        (ahead now back (ahead now front processor).2).2) := by
  induction front generalizing processor with
  | nil => rfl
  | cons next rest induction => simp only [List.cons_append, ahead, induction]

theorem settled_create (now : Timestamp) (lines : List String) (terminal : Terminal) :
    Settled now lines terminal.transcript [] terminal (.create terminal) where
  single := Nat.zero_le 1
  locked := by simp [create]
  commands := rfl
  others := rfl
  processor := rfl
  shown := rfl
  queued := fun _ member => nomatch member
  waiting := fun _ member => nomatch member
  idle := fun _ => rfl

/-- The command that holds the lock ends: its answer is the first of those to come. -/
theorem coherent_finish {position : Nat} {command : String} {ending : Ending}
    (free : overlap.awaiting = [])
    (request : Request.ofLine (lines.getD position "") = .run command)
    (commands : (overlap.results ++ (position, some ending) ::
        (ahead now overlap.queue overlap.terminal.processor).1).filter Answer.isCommand =
      expected.filter Answer.isCommand)
    (others : overlap.results.filter (fun answer => !Answer.isCommand answer) =
      expected.filter fun answer => !Answer.isCommand answer)
    (processor : (ahead now overlap.queue overlap.terminal.processor).2 = last.processor)
    (shown : overlap.terminal.transcript = overlap.results.foldl (screenAfter now lines) screen)
    (queued : ∀ entry ∈ overlap.queue,
      Request.ofLine (lines.getD entry.position "") = .run entry.command) :
    Coherent now lines screen expected last (overlap.finish now position command ending) where
  single := by simp [finish, answer, free]
  locked := by simp [finish, answer, free]
  commands := by
    have ended : (overlap.finish now position command ending).pending now =
        (ahead now overlap.queue overlap.terminal.processor).1 := by
      simp [pending, finish, answer, free]
    rw [ended, ← commands]
    simp [finish, answer]
  others := by
    rw [← others]
    simp [finish, answer, Answer.isCommand]
  processor := by
    rw [finish, answer, processor_display]
    exact processor
  shown := by
    simp only [finish, answer, List.foldl_append, List.foldl_cons, List.foldl_nil, ← shown,
      screenAfter, request]
    cases ending <;> rfl
  queued := queued
  waiting := by simp [finish, answer, free]

/-- Holding the lock, with the processor that a command leaves behind. -/
def holding (now : Timestamp) (command : String) (overlap : Overlap) : Overlap :=
  { overlap with
    terminal := { overlap.terminal with
      processor := (overlap.terminal.processor.execute now command).2 }
    locked := true }

/-- A command that runs either ends at once or waits for its page; in both cases what comes
of it and the processor are those of executing it. -/
theorem run_cases (now : Timestamp) (overlap : Overlap) (next : Queued) :
    overlap.run now next = (overlap.holding now next.command).finish now next.position
        next.command (overlap.terminal.processor.execute now next.command).1 ∨
      ∃ download,
        overlap.run now next = { overlap.holding now next.command with
          awaiting := overlap.awaiting ++
            [{ position := next.position, line := next.command, download }] } ∧
        (overlap.terminal.processor.execute now next.command).1 = .ok
          (download.finish (overlap.holding now next.command).terminal.processor.network.hosts) := by
  cases start : overlap.terminal.processor.start now next.command with
  | mk progress after =>
      rcases progress with escape | result | download
      · refine .inl ?_
        simp only [run, holding, Processor.execute, start, Except.map]
      · refine .inl ?_
        simp only [run, holding, Processor.execute, start, Except.map, Progress.result]
      · by_cases delayed : after.network.isDelayed = true
        · refine .inr ⟨download, ?_⟩
          simp only [run, holding, Processor.execute, start, Except.map, Progress.result, delayed,
            if_true, and_self]
        · refine .inl ?_
          simp only [run, holding, Processor.execute, start, Except.map, Progress.result, delayed,
            Bool.false_eq_true, if_false]

theorem queue_run (now : Timestamp) (overlap : Overlap) (next : Queued) :
    (overlap.run now next).queue = overlap.queue := by
  rcases run_cases now overlap next with ends | ⟨download, waits, -⟩
  · rw [ends]
    rfl
  · rw [waits]
    rfl

/-- The next command runs as far as it can. -/
theorem Coherent.run {next : Queued} {rest : List Queued} (free : overlap.awaiting = [])
    (coherent : Coherent now lines screen expected last { overlap with queue := next :: rest }) :
    Coherent now lines screen expected last { overlap.run now next with queue := rest } := by
  obtain ⟨-, -, commands, others, processor, shown, queued, -⟩ := coherent
  have request := queued next List.mem_cons_self
  have later : ∀ entry ∈ rest,
      Request.ofLine (lines.getD entry.position "") = .run entry.command :=
    fun entry member => queued entry (List.mem_cons_of_mem _ member)
  simp only [pending, free, ahead, List.map_nil, List.nil_append] at commands processor
  rcases run_cases now overlap next with ends | ⟨download, waits, result⟩
  · have ended : Coherent now lines screen expected last
        (({ overlap.holding now next.command with queue := rest } : Overlap).finish now
          next.position next.command (overlap.terminal.processor.execute now next.command).1) :=
      coherent_finish free request commands others processor shown later
    rw [ends]
    exact ended
  · rw [waits]
    refine ⟨?_, ?_, ?_, others, processor, shown, later, ?_⟩
    · simp [free]
    · simp [holding, free]
    · rw [result] at commands
      simpa [pending, free, awaited, holding] using commands
    · simpa [free] using request

/-- Handing the lock on ends in a state in which nothing can run. -/
theorem Coherent.serve {queue : List Queued}
    (coherent : Coherent now lines screen expected last { overlap with queue }) :
    Settled now lines screen expected last (serve now queue overlap) := by
  induction queue generalizing overlap with
  | nil => exact ⟨coherent, fun _ => rfl⟩
  | cons next rest induction =>
      rw [Overlap.serve]
      by_cases locked : overlap.locked = true
      · rw [if_pos locked]
        exact ⟨coherent, fun free => absurd free (coherent.locked.mp locked)⟩
      · rw [if_neg locked]
        have free : overlap.awaiting = [] :=
          Decidable.byContradiction fun waits => locked (coherent.locked.mpr waits)
        exact induction (coherent.run free)

theorem pickFrom_singleton (pick : Nat) (item : α) : pickFrom pick [item] = some (item, []) := by
  simp [pickFrom]

/-- As at most one page is awaited, every pick means that one. -/
theorem release_of_awaiting {arrived : Awaiting} (waits : overlap.awaiting = [arrived])
    (now : Timestamp) (pick : Nat) :
    overlap.release now pick =
      serve now overlap.queue (({ overlap with awaiting := [] } : Overlap).finish now
        arrived.position arrived.line
        (.ok (arrived.download.finish overlap.terminal.processor.network.hosts))) := by
  simp only [release, waits, pickFrom_singleton]
  rfl

theorem awaiting_cases (single : overlap.awaiting.length ≤ 1) :
    overlap.awaiting = [] ∨ ∃ arrived, overlap.awaiting = [arrived] := by
  cases waits : overlap.awaiting with
  | nil => exact .inl rfl
  | cons arrived rest =>
      rw [waits, List.length_cons] at single
      have none : rest = [] := List.eq_nil_of_length_eq_zero (by omega)
      exact .inr ⟨arrived, by rw [none]⟩

theorem Settled.release (settled : Settled now lines screen expected last overlap) (pick : Nat) :
    Settled now lines screen expected last (overlap.release now pick) := by
  rcases awaiting_cases settled.single with free | ⟨arrived, waits⟩
  · simpa [Overlap.release, free, pickFrom] using settled
  · rw [release_of_awaiting waits]
    have commands := settled.commands
    simp only [pending, waits, List.map_cons, List.map_nil, List.cons_append, List.nil_append,
      awaited] at commands
    have ended : Coherent now lines screen expected last
        (({ overlap with awaiting := [] } : Overlap).finish now arrived.position arrived.line
          (.ok (arrived.download.finish overlap.terminal.processor.network.hosts))) :=
      coherent_finish rfl (settled.waiting arrived (by simp [waits])) commands settled.others
        settled.processor settled.shown settled.queued
    exact ended.serve

/-- A line that needs no lock is answered at once. -/
theorem Settled.answer {position : Nat} {terminal next : Terminal}
    (settled : Settled now lines screen expected last overlap)
    (kept : terminal.processor = overlap.terminal.processor)
    (same : next.processor = last.processor)
    (shown : terminal.transcript =
      screenAfter now lines overlap.terminal.transcript (position, none)) :
    Settled now lines screen (expected ++ [(position, none)]) next
      (({ overlap with terminal } : Overlap).answer position none) where
  single := settled.single
  locked := settled.locked
  commands := by
    have unchanged : (({ overlap with terminal } : Overlap).answer position none).pending now =
        overlap.pending now := by
      simp [pending, Overlap.answer, kept]
    rw [unchanged, List.filter_append, List.filter_append, ← settled.commands]
    simp [Overlap.answer, Answer.isCommand]
  others := by
    rw [List.filter_append, ← settled.others]
    simp [Overlap.answer, Answer.isCommand]
  processor := by
    rw [same, ← settled.processor, ← kept]
    rfl
  shown := by
    simp only [Overlap.answer, List.foldl_append, List.foldl_cons, List.foldl_nil, ← settled.shown,
      shown]
  queued := settled.queued
  waiting := settled.waiting
  idle := settled.idle

/-- A command that queues gets its answer after all others that are still to come. -/
theorem Coherent.enqueue {position : Nat} {command : String} {next : Terminal}
    (coherent : Coherent now lines screen expected last overlap)
    (request : Request.ofLine (lines.getD position "") = .run command)
    (executed : next.processor = (last.processor.execute now command).2) :
    Coherent now lines screen
      (expected ++ [(position, some (last.processor.execute now command).1)]) next
      { overlap with queue := overlap.queue ++ [{ position, command }] } where
  single := coherent.single
  locked := coherent.locked
  commands := by
    have longer :
        ({ overlap with queue := overlap.queue ++ [{ position, command }] } : Overlap).pending now =
          overlap.pending now ++
            [(position, some (last.processor.execute now command).1)] := by
      simp only [pending, ahead_append, coherent.processor, ahead, List.append_assoc]
    rw [longer, ← List.append_assoc, List.filter_append expected, ← coherent.commands]
    exact List.filter_append ..
  others := by
    rw [List.filter_append, ← coherent.others]
    simp [Answer.isCommand]
  processor := by
    rw [executed]
    simp only [ahead_append, ahead, coherent.processor]
  shown := coherent.shown
  queued := by
    intro entry member
    rcases List.mem_append.mp member with old | new
    · exact coherent.queued entry old
    · rw [List.mem_singleton.mp new]
      exact request
  waiting := coherent.waiting

/-- A line arrives in a state in which nothing can run, and is expected to be answered
as it is after the lines before it. -/
theorem Settled.arrive {position : Nat} {line : String}
    (settled : Settled now lines screen expected last overlap)
    (placed : lines.getD position "" = line) :
    Settled now lines screen (expected ++ [(position, (last.submit now line).1)])
      (last.submit now line).2 (overlap.arrive now (position, line)) := by
  rcases submit_cases now line last with
    ⟨request, submitted⟩ | ⟨request, submitted⟩ | ⟨command, request, submitted⟩
  · simp only [Overlap.arrive, request, submitted]
    refine settled.answer rfl rfl ?_
    simp only [screenAfter, placed, request]
  · simp only [Overlap.arrive, request, submitted]
    refine settled.answer rfl rfl ?_
    simp only [screenAfter, placed, request, wipe]
  · simp only [Overlap.arrive, request, submitted]
    have asked : Request.ofLine (lines.getD position "") = .run command := by
      rw [placed, request]
    have enqueued : Coherent now lines screen
        (expected ++ [(position, some (last.processor.execute now command).1)])
        (({ last with processor := (last.processor.execute now command).2 } : Terminal).display now
          command (last.processor.execute now command).1)
        { overlap with queue := overlap.queue ++ [{ position, command }] } :=
      settled.enqueue asked (processor_display ..)
    by_cases free : overlap.awaiting = []
    · have unlocked : overlap.locked = false := by simpa [free] using settled.locked
      have empty := settled.idle free
      rw [empty, List.nil_append] at enqueued
      have ran := enqueued.run free
      have unqueued : (overlap.run now { position, command }).queue = [] := by
        rw [queue_run, empty]
      have whole : { overlap.run now { position, command } with queue := [] } =
          overlap.run now { position, command } := by
        rw [← unqueued]
      rw [whole] at ran
      have starts : ¬ (overlap.locked || !overlap.queue.isEmpty) = true := by
        rw [unlocked, empty]
        exact Bool.false_ne_true
      rw [if_neg starts]
      exact ⟨ran, fun _ => unqueued⟩
    · have queues : (overlap.locked || !overlap.queue.isEmpty) = true := by
        rw [settled.locked.mpr free, Bool.true_or]
      rw [if_pos queues]
      exact ⟨enqueued, fun none => absurd none free⟩

end CyberRange.Terminal.Overlap
