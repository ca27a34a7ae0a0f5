import CyberRange.Shell.Telling
import CyberRange.Terminal

namespace CyberRange

/-! A terminal that goes by the clock of the system.

That clock raises nothing, so every line has its result or none, and nothing escapes.
-/

structure Console extends Terminal where
  bySystem : processor.clock = .system

namespace Terminal

variable {terminal : Terminal}

theorem submit_readsClock (now : Timestamp) (line : String) (terminal : Terminal) :
    ∃ readings,
      terminal.processor.clock.Gives now readings (terminal.submit now line).2.processor.clock := by
  rw [submit]
  split
  · exact ⟨[], .nothing _⟩
  · exact ⟨[], .nothing _⟩
  · rename_i command _
    obtain ⟨readings, gives, -⟩ := Processor.execute_readsClock now command terminal.processor
    exact ⟨readings, by rwa [processor_display]⟩

theorem clock_submit_of_system (bySystem : terminal.processor.clock = .system) (now : Timestamp)
    (line : String) : (terminal.submit now line).2.processor.clock = .system := by
  obtain ⟨readings, gives⟩ := submit_readsClock now line terminal
  rw [bySystem] at gives
  exact gives.of_system

/-- Nothing escapes from a line if all that the clock raises can be told. -/
theorem submit_ne_escape (tellable : terminal.processor.clock.IsTellable) (now : Timestamp)
    (line : String) (escape : Escape) : (terminal.submit now line).1 ≠ some (.error escape) := by
  rw [submit]
  split
  · simp
  · simp
  · rename_i command _
    obtain ⟨result, ending⟩ := Processor.exists_execute_eq_ok tellable now command
    simp [ending]

end Terminal

/-- The result in an ending that is no escape. -/
def Ending.resultOf (ending : Option Ending) (kept : ∀ escape, ending ≠ some (.error escape)) :
    Option CommandResult :=
  match ending with
  | none => none
  | some (.ok result) => some result
  | some (.error escape) => absurd rfl (kept escape)

theorem Ending.map_resultOf {ending : Option Ending}
    (kept : ∀ escape, ending ≠ some (.error escape)) :
    (resultOf ending kept).map Except.ok = ending := by
  match ending with
  | none => rfl
  | some (.ok result) => rfl
  | some (.error escape) => exact absurd rfl (kept escape)

namespace Console

def create (now : Timestamp) (latency : Latency) : Console :=
  { toTerminal := .create now (.fresh now latency (.constant 0.5)), bySystem := rfl }

theorem isTellable (console : Console) : console.processor.clock.IsTellable :=
  console.bySystem ▸ Clock.isTellable_system

def submit (now : Timestamp) (line : String) (console : Console) :
    Option CommandResult × Console :=
  (Ending.resultOf (console.toTerminal.submit now line).1
      (Terminal.submit_ne_escape console.isTellable now line),
    { toTerminal := (console.toTerminal.submit now line).2,
      bySystem := Terminal.clock_submit_of_system console.bySystem now line })

theorem map_submit (now : Timestamp) (line : String) (console : Console) :
    (console.submit now line).1.map Except.ok = (console.toTerminal.submit now line).1 :=
  Ending.map_resultOf _

theorem toTerminal_inj {one two : Console} (same : one.toTerminal = two.toTerminal) :
    one = two := by
  cases one
  cases two
  cases same
  rfl

theorem submit_eq {now : Timestamp} {line : String} {console later : Console}
    {result : Option CommandResult}
    (submitted : console.toTerminal.submit now line = (result.map .ok, later.toTerminal)) :
    console.submit now line = (result, later) := by
  have answered := console.map_submit now line
  rw [submitted] at answered
  have unique : Function.Injective (Except.ok : CommandResult → Ending) := fun _ _ => Except.ok.inj
  exact Prod.ext (Option.map_injective unique answered)
    (toTerminal_inj (congrArg Prod.snd submitted))

theorem toTerminal_submit (now : Timestamp) (line : String) (console : Console) :
    (console.submit now line).2.toTerminal = (console.toTerminal.submit now line).2 := rfl

def wipe (console : Console) : Console :=
  { toTerminal := console.toTerminal.wipe, bySystem := console.bySystem }

def recallLine (direction : Direction) (console : Console) : String × Console :=
  ((console.toTerminal.recallLine direction).1,
    { toTerminal := (console.toTerminal.recallLine direction).2, bySystem := console.bySystem })

end Console

end CyberRange
