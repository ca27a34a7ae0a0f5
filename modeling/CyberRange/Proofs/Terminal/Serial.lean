import CyberRange.Proofs.Terminal.Coherence

namespace CyberRange.Terminal.Overlap

/-! Lines that are submitted at once come out as if they had been submitted one
after the other.  Every step keeps an overlap coherent, and every arriving page
leaves fewer commands without an answer. -/

variable {now : Timestamp} {lines : List String} {screen : List TranscriptEntry}
  {expected : List Answer} {last : Terminal} {overlap : Overlap}

/-- The number of commands that have no answer yet. -/
def unanswered (overlap : Overlap) : Nat :=
  overlap.awaiting.length + overlap.queue.length

theorem length_awaiting_run (now : Timestamp) (overlap : Overlap) (next : Queued) :
    (overlap.run now next).awaiting.length ≤ overlap.awaiting.length + 1 := by
  rcases run_cases now overlap next with ends | ⟨download, waits, -⟩
  · rw [ends]
    exact Nat.le_succ _
  · rw [waits]
    simp

theorem unanswered_serve (now : Timestamp) (queue : List Queued) (overlap : Overlap) :
    (serve now queue overlap).unanswered ≤ overlap.awaiting.length + queue.length := by
  induction queue generalizing overlap with
  | nil => exact Nat.le_refl _
  | cons next rest induction =>
      rw [serve]
      by_cases locked : overlap.locked = true
      · rw [if_pos locked]
        exact Nat.le_refl _
      · rw [if_neg locked]
        have later := induction (overlap.run now next)
        have grown := length_awaiting_run now overlap next
        rw [List.length_cons]
        omega

theorem unanswered_release {arrived : Awaiting} (waits : overlap.awaiting = [arrived])
    (now : Timestamp) (pick : Nat) : (overlap.release now pick).unanswered < overlap.unanswered := by
  rw [release_of_awaiting waits]
  have served := unanswered_serve now overlap.queue
    (({ overlap with awaiting := [] } : Overlap).finish now arrived.position arrived.line
      (.ok (arrived.download.finish overlap.terminal.processor.network.hosts)))
  have before : overlap.unanswered = 1 + overlap.queue.length := by
    rw [unanswered, waits, List.length_singleton]
  rw [before]
  refine Nat.lt_of_le_of_lt served ?_
  simp [finish, Overlap.answer]

theorem unanswered_arrive (now : Timestamp) (overlap : Overlap) (entry : Nat × String) :
    (overlap.arrive now entry).unanswered ≤ overlap.unanswered + 1 := by
  cases request : Request.ofLine entry.2 with
  | nothing =>
      simp only [arrive, request]
      exact Nat.le_succ _
  | clear =>
      simp only [arrive, request]
      exact Nat.le_succ _
  | run command =>
      simp only [arrive, request]
      split
      · simp [unanswered, Nat.add_assoc]
      · have grown := length_awaiting_run now overlap { position := entry.1, command }
        rw [unanswered, queue_run, unanswered]
        omega

theorem unanswered_foldl_arrive (now : Timestamp) (entries : List (Nat × String))
    (overlap : Overlap) :
    (entries.foldl (arrive now) overlap).unanswered ≤ overlap.unanswered + entries.length := by
  induction entries generalizing overlap with
  | nil => exact Nat.le_refl _
  | cons entry rest induction =>
      have later := induction (overlap.arrive now entry)
      have grown := unanswered_arrive now overlap entry
      rw [List.foldl_cons, List.length_cons]
      omega

theorem settled_foldl_arrive {entries : List (Nat × String)}
    (settled : Settled now lines screen expected last overlap)
    (placed : ∀ entry ∈ entries, lines.getD entry.1 "" = entry.2) :
    Settled now lines screen (expected ++ (inTurn now entries last).1) (inTurn now entries last).2
      (entries.foldl (arrive now) overlap) := by
  induction entries generalizing expected last overlap with
  | nil => simpa [inTurn] using settled
  | cons entry rest induction =>
      obtain ⟨position, line⟩ := entry
      have own : lines.getD position "" = line := placed (position, line) List.mem_cons_self
      have later := induction (settled.arrive own) fun other member =>
        placed other (List.mem_cons_of_mem _ member)
      rw [List.append_assoc, List.singleton_append] at later
      rw [inTurn_cons, List.foldl_cons]
      exact later

theorem settled_of_mem_stages {picks : List Nat} {stage : Overlap}
    (settled : Settled now lines screen expected last overlap)
    (member : stage ∈ overlap.stages now picks) :
    Settled now lines screen expected last stage := by
  induction picks generalizing overlap with
  | nil =>
      rw [List.mem_singleton.mp member]
      exact settled
  | cons pick later induction =>
      rw [stages] at member
      split at member
      · rw [List.mem_singleton.mp member]
        exact settled
      · rcases List.mem_cons.mp member with rfl | member
        · exact settled
        · exact induction (settled.release pick) member

/-- With as many picks as there are commands without an answer, all of them end. -/
theorem exists_last_stage {picks : List Nat}
    (settled : Settled now lines screen expected last overlap)
    (enough : overlap.unanswered ≤ picks.length) :
    ∃ stage, (overlap.stages now picks).getLast? = some stage ∧ stage.awaiting = [] := by
  induction picks generalizing overlap with
  | nil =>
      refine ⟨overlap, rfl, List.eq_nil_of_length_eq_zero ?_⟩
      rw [unanswered, List.length_nil] at enough
      omega
  | cons pick later induction =>
      rw [stages]
      rcases awaiting_cases settled.single with free | ⟨arrived, waits⟩
      · rw [free, List.isEmpty_nil, if_pos rfl]
        exact ⟨overlap, rfl, free⟩
      · have fewer := unanswered_release waits now pick
        rw [List.length_cons] at enough
        obtain ⟨stage, final, done⟩ := induction (settled.release pick) (by omega)
        rw [waits, List.isEmpty_cons, if_neg Bool.false_ne_true]
        refine ⟨stage, ?_, done⟩
        rw [List.getLast?_cons, final]
        rfl

end CyberRange.Terminal.Overlap

namespace CyberRange.Terminal

variable {now : Timestamp} {lines : List String} {terminal : Terminal}

/-- A state in which nothing can run, compared with submitting the lines in turn.

Its answers come in the order in which the lines ended, and tell what has been put on
the screen: one entry for each command with a result, and nothing that was there before
a wipe.  Every command has one if all that the clock raises can be told. -/
structure SerialAt (now : Timestamp) (lines : List String) (terminal : Terminal)
    (stage : Overlap) : Prop where
  single : stage.awaiting.length ≤ 1
  busy : stage.locked = true ↔ stage.awaiting.length = 1
  screen : stage.terminal.transcript =
    stage.results.foldl (screenAfter now lines) terminal.transcript
  ordered : stage.results.filter Answer.isCommand <+:
    (serialAnswers now lines terminal).filter Answer.isCommand
  told : terminal.processor.clock.IsTellable →
    ∀ answer ∈ stage.results, ∀ escape, answer.2 ≠ some (.error escape)

/-- A state in which every line has ended, compared with submitting the lines in turn. -/
structure SerialEnd (now : Timestamp) (lines : List String) (terminal : Terminal)
    (stage : Overlap) : Prop where
  nobody : stage.queue = []
  answers : stage.results.Perm (serialAnswers now lines terminal)
  ordered : stage.results.filter Answer.isCommand =
    (serialAnswers now lines terminal).filter Answer.isCommand
  processor : stage.terminal.processor = (terminal.submitAll now lines).2.processor
  screen : (∀ line ∈ lines, Request.ofLine line ≠ .clear) →
    stage.terminal.transcript = (terminal.submitAll now lines).2.transcript

theorem settled_arriveAll (now : Timestamp) (lines : List String) (terminal : Terminal) :
    Overlap.Settled now lines terminal.transcript (serialAnswers now lines terminal)
      (terminal.submitAll now lines).2 (terminal.arriveAll now lines) := by
  have settled := Overlap.settled_foldl_arrive
    (Overlap.settled_create now lines terminal) (placed_mapIdx lines)
  rw [inTurn_positions, List.nil_append] at settled
  exact settled

theorem Overlap.Settled.serialAt {stage : Overlap}
    (settled : Settled now lines terminal.transcript (serialAnswers now lines terminal)
      (terminal.submitAll now lines).2 stage) : SerialAt now lines terminal stage where
  single := settled.single
  busy := by
    rw [settled.locked]
    rcases awaiting_cases settled.single with free | ⟨arrived, waits⟩
    · simp [free]
    · simp [waits]
  screen := settled.shown
  ordered := by
    rw [← settled.commands, List.filter_append]
    exact List.prefix_append ..
  told := by
    intro tellable answer member escape escaped
    have command : Answer.isCommand answer = true := by
      rw [Answer.isCommand, escaped]
      rfl
    have serial : answer ∈ serialAnswers now lines terminal := by
      have ended : answer ∈ (stage.results ++ stage.pending now).filter Answer.isCommand :=
        List.mem_filter.mpr ⟨List.mem_append_left _ member, command⟩
      rw [settled.commands] at ended
      exact List.mem_filter.mp ended |>.1
    obtain ⟨position, inside, rfl⟩ := List.mem_mapIdx.mp serial
    exact ne_escape_of_mem_submitAll tellable (List.getElem_mem inside) escape escaped

theorem Overlap.Settled.serialEnd {stage : Overlap}
    (settled : Settled now lines terminal.transcript (serialAnswers now lines terminal)
      (terminal.submitAll now lines).2 stage) (done : stage.awaiting = []) :
    SerialEnd now lines terminal stage := by
  have nobody := settled.idle done
  have commands := settled.commands
  have processor := settled.processor
  have none : stage.pending now = [] := by
    rw [pending, done, nobody]
    rfl
  rw [none, List.append_nil] at commands
  rw [nobody] at processor
  refine ⟨nobody, ?_, commands, processor, fun kept => ?_⟩
  · have mine := List.filter_append_perm Answer.isCommand stage.results
    have theirs := List.filter_append_perm Answer.isCommand (serialAnswers now lines terminal)
    rw [commands, settled.others] at mine
    exact mine.symm.trans theirs
  · rw [settled.shown, screen_filter_isCommand kept, commands, ← screen_filter_isCommand kept,
      ← transcript_submitAll]

/-- Lines submitted at once to an idle terminal, with the awaited pages arriving in any
order, come out as if they had been submitted one after the other; with as many
arrivals as there are lines, all of them end. -/
theorem overlapping_serial (now : Timestamp) (lines : List String) (picks : List Nat)
    (terminal : Terminal) :
    (∀ stage ∈ terminal.overlapping now lines picks, SerialAt now lines terminal stage ∧
        (stage.awaiting = [] → SerialEnd now lines terminal stage)) ∧
      (lines.length ≤ picks.length → ∃ stage,
        (terminal.overlapping now lines picks).getLast? = some stage ∧ stage.awaiting = []) := by
  have settled := settled_arriveAll now lines terminal
  refine ⟨fun stage member => ?_, fun enough => ?_⟩
  · have stays := Overlap.settled_of_mem_stages settled member
    exact ⟨stays.serialAt, stays.serialEnd⟩
  · have few := Overlap.unanswered_foldl_arrive now
      (lines.mapIdx fun position line => (position, line)) (.create terminal)
    rw [List.length_mapIdx] at few
    have fits : (terminal.arriveAll now lines).unanswered ≤ picks.length :=
      Nat.le_trans few (by simpa [Overlap.unanswered, Overlap.create] using enough)
    exact Overlap.exists_last_stage settled fits

/-- Four lines, of which the first and the last wait for their pages. -/
theorem overlapping_serial_two_downloads :
    let terminal := create default (.fresh default .standard (.constant 0.5))
    let lines := ["curl http://academic.edu", "  ", "cd tools", "curl -i http://academic.edu"]
    ∃ stage, (terminal.overlapping default lines [7, 0, 3, 0]).getLast? = some stage ∧
      stage.awaiting = [] ∧ SerialEnd default lines terminal stage ∧
      stage.terminal.transcript = (terminal.submitAll default lines).2.transcript := by
  intro terminal lines
  obtain ⟨stages, ends⟩ := overlapping_serial default lines [7, 0, 3, 0] terminal
  obtain ⟨stage, final, done⟩ := ends (by decide)
  have serial := (stages stage (List.mem_of_getLast? final)).2 done
  exact ⟨stage, final, done, serial, serial.screen (by decide)⟩

end CyberRange.Terminal
