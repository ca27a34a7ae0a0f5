import CyberRange.Proofs.Shell.Recording
import CyberRange.Proofs.Terminal.InTurn
import CyberRange.Proofs.Text.Words
import CyberRange.Service.Handler

namespace CyberRange

/-! What the report on a submitted line says, and what the line has done to its session.

The report strips the line, the terminal strips it and compares it, and the processor cuts
it into words; that they mean the same by a blank line is what makes the report true.
-/

/-- What a session answers to a line, and the session behind it. -/
def Session.submit (now : Timestamp) (line : String) (session : Session) :
    CommandReport × Session :=
  let (result, terminal) := session.terminal.submit now line
  (.ofSubmission line result terminal, { session with terminal })

theorem Service.carryOut_execute {registry : Registry} {id : String} {session : Session}
    (held : registry.get id = .ok session) (now : Timestamp) (line : String) (service : Service) :
    service.carryOut now registry (.execute id line) =
      (.document 200 (session.submit now line).1.toJson,
        service.share (registry.withTerminal id (session.submit now line).2.terminal)) := by
  simp only [carryOut, held, Session.submit]

/-- A report is true of what a line has made of a session. -/
structure CommandReport.Accounts (report : CommandReport) (line : String)
    (before after : Session) : Prop where
  command : report.command = Text.strip line
  executed_iff_recorded : report.executed = true ↔
    after.terminal.processor.history.entries =
      before.terminal.processor.history.entries ++ [Text.strip line]
  executed_iff_shown : report.executed = true ↔ ∃ entry : TranscriptEntry,
    after.terminal.transcript = before.terminal.transcript ++ [entry] ∧
      entry.command = Text.strip line ∧ entry.output = report.output ∧
      entry.type.name = report.type
  cleared_iff : report.cleared = true ↔ Text.strip line = "clear"
  wiped : report.cleared = true →
    after = { before with terminal := { before.terminal with transcript := [] } }
  idle : report.executed = false → report.cleared = false →
    (∀ c ∈ line.toList, Text.isBlank c = true) ∧ after = before
  exclusive : ¬ (report.executed = true ∧ report.cleared = true)
  prompt : after.snapshot.field? "prompt" = some (.text report.prompt)
  currentPath : after.snapshot.field? "current_path" = some (.text report.currentPath)

namespace Terminal

variable {now : Timestamp} {line command : String}

/-- The processor finds a word in every line that it is handed. -/
theorem Request.words_ne_nil (asked : ofLine line = .run command) : Text.words command ≠ [] := by
  obtain ⟨rfl, filled, -⟩ := ofLine_eq_run_iff.mp asked
  exact Text.words_strip_ne_nil filled

end Terminal

/-- A command typed at a console has a result, which is appended to the screen. -/
theorem Console.submit_run {line command : String} (console : Console) (now : Timestamp)
    (request : Terminal.Request.ofLine line = .run command) :
    ∃ result later, console.submit now line = (some result, later) ∧
      later.processor = (console.processor.execute now command).2 ∧
      later.transcript = console.transcript ++
        [{ command, output := result.output, type := result.type, timestamp := now }] := by
  obtain ⟨result, told⟩ := Processor.exists_execute_eq_ok console.isTellable now command
  let later : Console :=
    { toTerminal := ({ console.toTerminal with
        processor := (console.processor.execute now command).2 }).append now command result
      bySystem := Processor.clock_execute_of_system console.bySystem now command }
  have submitted : console.toTerminal.submit now line = (some (.ok result), later.toTerminal) := by
    simp only [Terminal.submit, request, told]
    rfl
  exact ⟨result, later, submit_eq submitted, rfl, rfl⟩

namespace CommandReport

variable {line : String}

theorem accounts_nothing (blank : Text.strip line = "") (session : Session) :
    (ofSubmission line none session.terminal).Accounts line session session := by
  have kept : (ofSubmission line none session.terminal).cleared = false := by
    simp [ofSubmission, blank, Terminal.clearLine]
  constructor
  case command | prompt | currentPath => rfl
  case executed_iff_recorded | executed_iff_shown => simp [ofSubmission]
  case cleared_iff => simp [kept, blank]
  case wiped | exclusive => simp [kept]
  case idle => exact fun _ _ => ⟨Text.strip_eq_empty_iff.mp blank, rfl⟩

theorem accounts_clear (wipes : Text.strip line = Terminal.clearLine) (session : Session) :
    (ofSubmission line none session.terminal.wipe).Accounts line session
      { session with terminal := session.terminal.wipe } := by
  have cleared : (ofSubmission line none session.terminal.wipe).cleared = true := by
    simp [ofSubmission, wipes]
  constructor
  case command | prompt | currentPath => rfl
  case executed_iff_recorded | executed_iff_shown =>
    simp [ofSubmission, Console.wipe, Terminal.wipe]
  case cleared_iff => exact iff_of_true cleared wipes
  case wiped => exact fun _ => rfl
  case idle => simp [cleared]
  case exclusive => simp [ofSubmission]

/-- A command leaves its line in the history and on the screen, whatever its result. -/
theorem accounts_run {session : Session} {terminal : Console} {result : CommandResult}
    (other : Text.strip line ≠ Terminal.clearLine)
    (recorded : terminal.processor.history.entries =
      session.terminal.processor.history.entries ++ [Text.strip line])
    (shown : ∃ entry : TranscriptEntry,
      terminal.transcript = session.terminal.transcript ++ [entry] ∧
        entry.command = Text.strip line ∧ entry.output = result.output ∧
        entry.type = result.type) :
    (ofSubmission line (some result) terminal).Accounts line session { session with terminal } := by
  obtain ⟨entry, appended, command, output, type⟩ := shown
  constructor
  case command | prompt | currentPath => rfl
  case executed_iff_recorded => exact iff_of_true rfl recorded
  case executed_iff_shown =>
    exact iff_of_true rfl ⟨entry, appended, command, output, congrArg ResultType.name type⟩
  case cleared_iff => exact iff_of_false Bool.false_ne_true other
  case wiped | idle | exclusive => simp [ofSubmission]

end CommandReport

/-- What a report says of a submitted line is what the line has done: it is recorded and
shown, or it clears the screen, or it is blank and nothing has changed.  The report is what a
service answers to the line, and what it keeps is the session behind it. -/
theorem Session.submit_accounted (now : Timestamp) (line : String) (session : Session) :
    (session.submit now line).1.Accounts line session (session.submit now line).2 ∧
      (∀ command, Terminal.Request.ofLine line = .run command → Text.words command ≠ []) ∧
      ∀ (service : Service) (registry : Registry) (id : String), registry.get id = .ok session →
        service.carryOut now registry (.execute id line) =
          (.document 200 (session.submit now line).1.toJson,
            service.share (registry.withTerminal id (session.submit now line).2.terminal)) := by
  refine ⟨?_, fun command => Terminal.Request.words_ne_nil, fun service registry id held =>
    Service.carryOut_execute held now line service⟩
  rcases Terminal.submit_cases now line session.terminal.toTerminal with
    ⟨request, done⟩ | ⟨request, done⟩ | ⟨command, request, -⟩
  · have blank := Terminal.Request.ofLine_eq_nothing_iff.mp request
    have submitted : session.terminal.submit now line = (none, session.terminal) :=
      Console.submit_eq done
    simp only [submit, submitted]
    exact CommandReport.accounts_nothing blank session
  · have wipes := (Terminal.Request.ofLine_eq_clear_iff line).mp request
    have submitted : session.terminal.submit now line = (none, session.terminal.wipe) :=
      Console.submit_eq done
    simp only [submit, submitted]
    exact CommandReport.accounts_clear wipes session
  · -- The terminal hands over only lines with a word in them, so the processor records it.
    have worded := Terminal.Request.words_ne_nil request
    obtain ⟨rfl, -, other⟩ := Terminal.Request.ofLine_eq_run_iff.mp request
    obtain ⟨result, terminal, submitted, executed, shown⟩ :=
      session.terminal.submit_run now request
    simp only [submit, submitted]
    refine CommandReport.accounts_run other ?_ ⟨_, shown, rfl, rfl, rfl⟩
    rw [executed, Processor.history_execute_of_words now worded]
    rfl

end CyberRange
