import CyberRange.Terminal.Console
import CyberRange.Terminal.Overlap

namespace CyberRange.Terminal

/-! Lines submitted one after the other, each with its position, and what their
results put on the screen. -/

variable {now : Timestamp} {lines : List String} {terminal : Terminal}

abbrev Answer := Nat × Option Ending

/-- Whether an answer is the ending of a command; wiping the screen and blank lines
have none. -/
def Answer.isCommand (answer : Answer) : Bool :=
  answer.2.isSome

def inTurn (now : Timestamp) : List (Nat × String) → Terminal → List Answer × Terminal
  | [], terminal => ([], terminal)
  | (position, line) :: rest, terminal =>
      let (ending, next) := terminal.submit now line
      let (answers, last) := inTurn now rest next
      ((position, ending) :: answers, last)

theorem inTurn_cons (now : Timestamp) (position : Nat) (line : String)
    (rest : List (Nat × String)) (terminal : Terminal) :
    inTurn now ((position, line) :: rest) terminal =
      ((position, (terminal.submit now line).1) ::
          (inTurn now rest (terminal.submit now line).2).1,
        (inTurn now rest (terminal.submit now line).2).2) := by
  simp only [inTurn]

/-- The screen after one more answer: a command with a result appends one entry and wiping
leaves nothing. -/
def screenAfter (now : Timestamp) (lines : List String) (screen : List TranscriptEntry)
    (answer : Answer) : List TranscriptEntry :=
  match Request.ofLine (lines.getD answer.1 ""), answer.2 with
  | .run command, some (.ok result) =>
      screen ++ [{ command, output := result.output, type := result.type, timestamp := now }]
  | .clear, _ => []
  | _, _ => screen

theorem Request.ofLine_eq_nothing_iff {line : String} :
    ofLine line = .nothing ↔ Text.strip line = "" := by
  simp only [ofLine]
  split
  · simp [*]
  · rename_i filled
    simp only [filled, iff_false]
    split <;> exact Request.noConfusion

theorem Request.ofLine_eq_clear_iff (line : String) :
    ofLine line = .clear ↔ Text.strip line = Terminal.clearLine := by
  have filled : ¬ Terminal.clearLine = "" := by decide
  by_cases blank : Text.strip line = ""
  · simp [ofLine, blank, filled]
  · by_cases wipes : Text.strip line = Terminal.clearLine
    · simp [ofLine, wipes, filled]
    · simp [ofLine, blank, wipes]

theorem Request.ofLine_eq_run_iff {line command : String} :
    ofLine line = .run command ↔
      command = Text.strip line ∧ command ≠ "" ∧ command ≠ clearLine := by
  simp only [ofLine]
  split
  · grind
  · split <;> grind

/-- What a line asks for, and how it is answered when it is submitted. -/
theorem submit_cases (now : Timestamp) (line : String) (terminal : Terminal) :
    (Request.ofLine line = .nothing ∧ terminal.submit now line = (none, terminal)) ∨
      (Request.ofLine line = .clear ∧ terminal.submit now line = (none, terminal.wipe)) ∨
      ∃ command, Request.ofLine line = .run command ∧
        terminal.submit now line =
          (some (terminal.processor.execute now command).1,
            ({ terminal with processor := (terminal.processor.execute now command).2 }).display now
              command (terminal.processor.execute now command).1) := by
  rw [submit]
  cases request : Request.ofLine line with
  | nothing => exact .inl ⟨rfl, rfl⟩
  | clear => exact .inr (.inl ⟨rfl, rfl⟩)
  | run command => exact .inr (.inr ⟨command, rfl, rfl⟩)

/-- If all that the clock raises can be told, nothing escapes from any line. -/
theorem ne_escape_of_mem_submitAll (tellable : terminal.processor.clock.IsTellable)
    {ending : Option Ending} (member : ending ∈ (terminal.submitAll now lines).1)
    (escape : Escape) : ending ≠ some (.error escape) := by
  induction lines generalizing terminal with
  | nil => cases member
  | cons line rest induction =>
      obtain ⟨readings, gives⟩ := submit_readsClock now line terminal
      rcases List.mem_cons.mp member with rfl | later
      · exact submit_ne_escape tellable now line escape
      · exact induction (gives.isTellable tellable) later

/-- The position of a line does not matter to what is done with it. -/
theorem inTurn_mapIdx (now : Timestamp) (lines : List String) (place : Nat → Nat)
    (terminal : Terminal) :
    inTurn now (lines.mapIdx fun index line => (place index, line)) terminal =
      ((terminal.submitAll now lines).1.mapIdx fun index ending => (place index, ending),
        (terminal.submitAll now lines).2) := by
  induction lines generalizing place terminal with
  | nil => rfl
  | cons line rest induction =>
      have later := induction (fun index => place (index + 1)) (terminal.submit now line).2
      simp only [List.mapIdx_cons, inTurn_cons, submitAll, later]

/-- What lines submitted in turn answer, each under its position. -/
def serialAnswers (now : Timestamp) (lines : List String) (terminal : Terminal) : List Answer :=
  (terminal.submitAll now lines).1.mapIdx fun position ending => (position, ending)

theorem inTurn_positions (now : Timestamp) (lines : List String) (terminal : Terminal) :
    inTurn now (lines.mapIdx fun position line => (position, line)) terminal =
      (serialAnswers now lines terminal, (terminal.submitAll now lines).2) :=
  inTurn_mapIdx now lines id terminal

/-- The positions that lines have when all arrive at once. -/
theorem placed_mapIdx (lines : List String) :
    ∀ entry ∈ lines.mapIdx fun position line => (position, line),
      lines.getD entry.1 "" = entry.2 := by
  intro entry member
  obtain ⟨position, inside, rfl⟩ := List.mem_mapIdx.mp member
  simp [List.getD_eq_getElem?_getD, inside]

/-- The screen of a terminal after a line is that after its answer. -/
theorem transcript_submit {position : Nat} {line : String}
    (placed : lines.getD position "" = line) :
    (terminal.submit now line).2.transcript =
      screenAfter now lines terminal.transcript (position, (terminal.submit now line).1) := by
  rw [screenAfter, placed]
  rcases submit_cases now line terminal with
    ⟨request, done⟩ | ⟨request, done⟩ | ⟨command, request, done⟩
  · simp only [request, done]
  · simp only [request, done, wipe]
  · simp only [request, done]
    cases (terminal.processor.execute now command).1 <;> rfl

theorem transcript_inTurn {entries : List (Nat × String)}
    (placed : ∀ entry ∈ entries, lines.getD entry.1 "" = entry.2) :
    (inTurn now entries terminal).2.transcript =
      (inTurn now entries terminal).1.foldl (screenAfter now lines) terminal.transcript := by
  induction entries generalizing terminal with
  | nil => rfl
  | cons entry rest induction =>
      obtain ⟨position, line⟩ := entry
      have own : lines.getD position "" = line := placed (position, line) List.mem_cons_self
      simp only [inTurn_cons, List.foldl_cons, ← transcript_submit own]
      exact induction fun other member => placed other (List.mem_cons_of_mem _ member)

theorem transcript_submitAll (now : Timestamp) (lines : List String) (terminal : Terminal) :
    (terminal.submitAll now lines).2.transcript =
      (serialAnswers now lines terminal).foldl (screenAfter now lines) terminal.transcript := by
  have shown : (inTurn now (lines.mapIdx fun position line => (position, line))
      terminal).2.transcript = _ := transcript_inTurn (placed_mapIdx lines)
  rwa [inTurn_positions] at shown

/-- Unless some line wipes it, only the results of commands show on the screen. -/
theorem screen_filter_isCommand (kept : ∀ line ∈ lines, Request.ofLine line ≠ .clear)
    (answers : List Answer) (screen : List TranscriptEntry) :
    answers.foldl (screenAfter now lines) screen =
      (answers.filter Answer.isCommand).foldl (screenAfter now lines) screen := by
  induction answers generalizing screen with
  | nil => rfl
  | cons answer rest induction =>
      obtain ⟨position, result⟩ := answer
      cases result with
      | some result =>
          rw [List.foldl_cons, induction]
          rfl
      | none =>
          have unseen : screenAfter now lines screen (position, none) = screen := by
            have request : Request.ofLine (lines.getD position "") ≠ .clear := by
              rw [List.getD_eq_getElem?_getD]
              cases line : lines[position]? with
              | none => decide
              | some text => exact kept text (List.mem_of_getElem? line)
            rw [screenAfter]
            cases asked : Request.ofLine (lines.getD position "") with
            | nothing => rfl
            | clear => exact absurd asked request
            | run command => rfl
          rw [List.foldl_cons, unseen, induction]
          rfl

end CyberRange.Terminal
