import CyberRange.Proofs.Shell.Effects
import CyberRange.Terminal

namespace CyberRange

/-! What is recorded of a line that is run: the processor puts it down before it looks at
the command, and no command touches the history after that. -/

namespace Processor

theorem history_execute_of_words {line : String} (now : Timestamp) (filled : Text.words line ≠ [])
    (processor : Processor) :
    (processor.execute now line).2.history = processor.history.append line := by
  rcases execute_cases now line processor with
    ⟨none, -⟩ | ⟨name, words, -, -, executed⟩ | ⟨verb, words, -, executed⟩
  · exact absurd none filled
  · rw [executed]
    rfl
  · rw [executed]
    exact (kept_dispatch now verb words (processor.record line)).history

theorem history_execute (now : Timestamp) (line : String) (processor : Processor) :
    (processor.execute now line).2.history = processor.history ∨
      (processor.execute now line).2.history = processor.history.append line := by
  by_cases filled : Text.words line = []
  · refine .inl ?_
    simp only [execute, start, filled]
  · exact .inr (history_execute_of_words now filled processor)

end Processor

theorem Terminal.entries_submit (now : Timestamp) (line : String) (terminal : Terminal) :
    (terminal.submit now line).2.processor.history.entries = terminal.processor.history.entries ∨
      ∃ command, (terminal.submit now line).2.processor.history.entries =
        terminal.processor.history.entries ++ [command] := by
  rw [submit]
  split
  · exact .inl rfl
  · exact .inl rfl
  · rename_i command asked
    rw [processor_display]
    rcases Processor.history_execute now command terminal.processor with same | recorded
    · exact .inl (congrArg History.entries same)
    · exact .inr ⟨command, congrArg History.entries recorded⟩

end CyberRange
