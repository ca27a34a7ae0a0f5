import CyberRange.Proofs.Shell.Effects

namespace CyberRange.Processor

/-! Executing a line is atomic, and total as far as the clock allows.

The line is recorded once, and unless it succeeds the files are as they were.  It has one
result, unless the clock has raised a failure without a text meanwhile: that one escapes.
-/

variable {now : Timestamp} {line : String} {processor : Processor} {verb : Verb}
  {words : List String}

/-- What a line comes to, and what it leaves behind. -/
structure AtomicAt (now : Timestamp) (line : String) (processor : Processor) : Prop where
  blank : Text.words line = [] → processor.execute now line = (.ok (.info ""), processor)
  recorded : Text.words line ≠ [] →
    (processor.execute now line).2.history.entries = processor.history.entries ++ [line] ∧
      (processor.execute now line).2.history.cursor =
        (processor.execute now line).2.history.size
  answered : processor.clock.IsTellable →
    ∃ result, (processor.execute now line).1 = .ok result
  escaped : ∀ escape, (processor.execute now line).1 = .error escape →
    ∃ readings fault, processor.clock.Gives now readings (processor.execute now line).2.clock ∧
      .error fault ∈ readings ∧ fault.isTellable = false ∧ fault.ending = .error escape
  failed : (processor.execute now line).1.succeeds = false →
    (processor.execute now line).2.files = processor.files
  moved : (processor.execute now line).2.files.current ≠ processor.files.current →
    (processor.execute now line).1.succeeds = true ∧
      ∃ words, Text.words line = Verb.cd.name :: words
  written : (processor.execute now line).2.files.root ≠ processor.files.root →
    (processor.execute now line).1.succeeds = true ∧
      ∃ words, Text.words line = Verb.touch.name :: words

/-- Executing any line on any processor, whatever its clock shows or fails with. -/
theorem execute_atomic (now : Timestamp) (line : String) (processor : Processor) :
    AtomicAt now line processor := by
  have answered (tellable : processor.clock.IsTellable) :
      ∃ result, (processor.execute now line).1 = .ok result :=
    exists_execute_eq_ok tellable now line
  have escaped (escape : Escape) (ending : (processor.execute now line).1 = .error escape) :
      ∃ readings fault, processor.clock.Gives now readings (processor.execute now line).2.clock ∧
        .error fault ∈ readings ∧ fault.isTellable = false ∧ fault.ending = .error escape := by
    obtain ⟨readings, gives, raised⟩ := execute_readsClock now line processor
    obtain ⟨fault, member, untold⟩ := raised escape ending
    exact ⟨readings, fault, gives, member, Fault.isTellable_of_escape untold, untold⟩
  rcases execute_cases now line processor with
    ⟨parts, executed⟩ | ⟨name, words, parts, unknown, executed⟩ | ⟨verb, words, parts, executed⟩
  · refine ⟨?_, ?_, answered, escaped, ?_, ?_, ?_⟩ <;> simp [parts, executed]
  · refine ⟨?_, ?_, answered, escaped, ?_, ?_, ?_⟩ <;>
      simp [parts, executed, record, History.append, History.size]
  · have effect := effect_dispatch now verb words
      ((processor.record line).dispatch now verb words).2.network.hosts (processor.record line)
    have history := (kept_dispatch now verb words (processor.record line)).history
    have succeeded : ((processor.execute now line).2.files ≠ processor.files) →
        (processor.execute now line).1.succeeds = true := by
      intro differs
      rw [executed] at differs ⊢
      exact Bool.of_not_eq_false fun failed => differs (effect.eq_of_not_succeeds failed)
    refine ⟨?_, ?_, answered, escaped, ?_, ?_, ?_⟩
    · simp [parts]
    · intro _
      rw [executed, history]
      simp [record, History.append, History.size]
    · rw [executed]
      exact effect.eq_of_not_succeeds
    · intro differs
      refine ⟨succeeded fun same => differs (by rw [same]), words, ?_⟩
      rw [executed] at differs
      rw [parts, Decidable.byContradiction fun other : ¬ verb = .cd =>
        differs (effect.current_eq other)]
    · intro differs
      refine ⟨succeeded fun same => differs (by rw [same]), words, ?_⟩
      rw [executed] at differs
      rw [parts, Decidable.byContradiction fun other : ¬ verb = .touch =>
        differs (effect.root_eq other)]

/-- A clock that fails without a word still leaves a result, and the directory has its time. -/
theorem execute_atomic_mute :
    let processor := create (.atHome (.seed default)) (.create .standard .instant (.constant 0.5))
      (.scripted (.constant (.error (.other "RuntimeError" (.ok "")))))
    processor.clock.IsTellable ∧
      (∃ result, (processor.execute default "touch tools").1 = .ok result) ∧
      (processor.execute default "touch tools").1.succeeds = false ∧
      (processor.execute default "touch tools").2.files = processor.files := by
  intro processor
  have tellable : processor.clock.IsTellable := Clock.isTellable_constant rfl
  have failed : (processor.execute default "touch tools").1.succeeds = false := by decide +kernel
  have atomic := execute_atomic default "touch tools" processor
  exact ⟨tellable, atomic.answered tellable, failed, atomic.failed failed⟩

/-- A failure for the user whose message is a number, and one that fails again when it is
printed, leave no result of a line that has read the clock. -/
theorem execute_escapes :
    let clocked (fault : Fault) := create (.atHome (.seed default))
      (.create .standard .instant (.constant 0.5)) (.scripted (.constant (.error fault)))
    (¬ ∃ result, ((clocked (.forUser (.ok (.int 5)))).execute default
        "nmap vulnerable-bank").1 = .ok result) ∧
      ¬ ∃ result, ((clocked (.other "ValueError" (.error (.other "TypeError" (.ok ""))))).execute
        default "touch tools").1 = .ok result := by
  intro clocked
  have numbered : ((clocked (.forUser (.ok (.int 5)))).execute default
      "nmap vulnerable-bank").1.toOption = none := by decide +kernel
  have unprinted : ((clocked (.other "ValueError" (.error (.other "TypeError"
      (.ok ""))))).execute default "touch tools").1.toOption = none := by decide +kernel
  constructor
  · rintro ⟨result, ending⟩
    rw [ending] at numbered
    cases numbered
  · rintro ⟨result, ending⟩
    rw [ending] at unprinted
    cases unprinted

end CyberRange.Processor
