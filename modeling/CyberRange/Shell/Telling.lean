import CyberRange.Shell.Processor

namespace CyberRange

/-! Which failures can be told, and when a line has a result.

Everything that a command refuses by itself comes with a text.  What the clock raises
need not have one, so a line that reads the clock has a result for sure only if the
clock raises nothing else; then this is the same after it.
-/

/-- Whether a failure has a text to show for it. -/
def Fault.isTellable : Fault → Bool
  | .forUser (.ok (.text _)) => true
  | .other _ (.ok _) => true
  | _ => false

/-- A failure becomes a result, and one that reports an error, exactly if it has a text. -/
theorem Fault.ending_cases (fault : Fault) :
    (fault.isTellable = true ∧ ∃ message, fault.ending = .ok (.error message)) ∨
      (fault.isTellable = false ∧ ∃ escape, fault.ending = .error escape) := by
  cases fault with
  | forUser message =>
      cases message with
      | error fault => exact .inr ⟨rfl, _, rfl⟩
      | ok message =>
          cases message with
          | text text => exact .inl ⟨rfl, text, rfl⟩
          | null | bool | int | float | list | object => exact .inr ⟨rfl, _, rfl⟩
  | other kind printed =>
      cases printed with
      | ok text => exact .inl ⟨rfl, _, rfl⟩
      | error fault => exact .inr ⟨rfl, _, rfl⟩

theorem Fault.isTellable_of_escape {fault : Fault} {escape : Escape}
    (escaped : fault.ending = .error escape) : fault.isTellable = false := by
  rcases fault.ending_cases with ⟨-, message, told⟩ | ⟨untellable, -⟩
  · rw [escaped] at told
    cases told
  · exact untellable

namespace Clock

/-- Readings taken one after the other, up to a later state of the clock. -/
inductive Gives (now : Timestamp) : Clock → List (Except Fault Timestamp) → Clock → Prop where
  | nothing (clock : Clock) : Gives now clock [] clock
  | reading {clock later : Clock} {readings : List (Except Fault Timestamp)}
      (further : Gives now (clock.read now).2 readings later) :
      Gives now clock ((clock.read now).1 :: readings) later

/-- A failure that a clock raises sooner or later. -/
inductive Raises : Clock → Fault → Prop where
  | here {clock : Clock} {moment : Timestamp} {fault : Fault}
      (raised : (clock.read moment).1 = .error fault) : Raises clock fault
  | later {clock : Clock} {moment : Timestamp} {fault : Fault}
      (raised : Raises (clock.read moment).2 fault) : Raises clock fault

/-- All that a clock ever raises can be told. -/
def IsTellable (clock : Clock) : Prop :=
  ∀ fault, clock.Raises fault → fault.isTellable = true

variable {now : Timestamp} {clock later : Clock} {readings : List (Except Fault Timestamp)}

theorem Gives.raises (gives : Gives now clock readings later) {fault : Fault}
    (member : .error fault ∈ readings) : clock.Raises fault := by
  induction gives with
  | nothing => exact absurd member List.not_mem_nil
  | reading further induction =>
      rcases List.mem_cons.mp member with first | behind
      · exact .here first.symm
      · exact .later (induction behind)

theorem Gives.isTellable (gives : Gives now clock readings later) (tellable : clock.IsTellable) :
    later.IsTellable := by
  induction gives with
  | nothing => exact tellable
  | reading further induction => exact induction fun fault raised => tellable fault (.later raised)

theorem Gives.of_system (gives : Gives now .system readings later) : later = .system := by
  generalize same : Clock.system = clock at gives
  induction gives with
  | nothing => rfl
  | reading further induction =>
      subst same
      exact induction rfl

theorem isTellable_system : system.IsTellable := by
  intro fault raised
  generalize same : Clock.system = clock at raised
  induction raised with
  | here raised =>
      subst same
      cases raised
  | later raised induction =>
      subst same
      exact induction rfl

theorem isTellable_constant {fault : Fault} (tellable : fault.isTellable = true) :
    (scripted (.constant (.error fault))).IsTellable := by
  intro other raised
  -- a constant clock is the same clock after a reading
  generalize same : scripted (.constant (.error fault)) = clock at raised
  induction raised with
  | here raised =>
      subst same
      cases raised
      exact tellable
  | later raised induction =>
      subst same
      exact induction rfl

end Clock

namespace Processor

variable {now : Timestamp} {processor : Processor}

/-- Between two states of the clock there are only readings, and a failure of the clock is
one of them. -/
def ReadsClock (now : Timestamp) (clock : Clock) (outcome : Except Failure α) (later : Clock) :
    Prop :=
  ∃ readings, clock.Gives now readings later ∧
    ∀ fault, outcome = .error (.clock fault) → .error fault ∈ readings

theorem readsClock_of_unread {outcome : Except Failure α}
    (other : ∀ fault, outcome ≠ .error (.clock fault)) (clock : Clock) :
    ReadsClock now clock outcome clock :=
  ⟨[], .nothing clock, fun fault failed => absurd failed (other fault)⟩

theorem ReadsClock.map {clock later : Clock} {outcome : Except Failure α} (change : α → β)
    (reads : ReadsClock now clock outcome later) :
    ReadsClock now clock (outcome.map change) later := by
  obtain ⟨readings, gives, failed⟩ := reads
  refine ⟨readings, gives, fun fault same => failed fault ?_⟩
  cases outcome with
  | ok value => cases same
  | error failure =>
      cases same
      rfl

theorem scan_readsClock (now : Timestamp) (words : List String) (processor : Processor) :
    ∃ clock, (processor.scan now words).2 = { processor with clock } ∧
      ReadsClock now processor.clock (processor.scan now words).1 clock := by
  rcases words with - | ⟨query, - | ⟨second, others⟩⟩
  · exact ⟨processor.clock, rfl, readsClock_of_unread (by simp [scan]) _⟩
  · cases found : processor.network.hosts.search query with
    | none =>
        refine ⟨processor.clock, ?_, readsClock_of_unread ?_ _⟩ <;>
          simp [scan, scanHost, found]
    | some target =>
        cases reading : (processor.clock.read now).1 <;>
          refine ⟨(processor.clock.read now).2, ?_, _, .reading (.nothing _), ?_⟩ <;>
          simp [scan, scanHost, found, readClock, reading]
  · exact ⟨processor.clock, rfl, readsClock_of_unread (by simp [scan]) _⟩

theorem inject_readsClock (now : Timestamp) (words : List String) (processor : Processor) :
    ∃ clock, (processor.inject now words).2 = { processor with clock } ∧
      ReadsClock now processor.clock (processor.inject now words).1 clock := by
  rw [inject]
  split
  · exact ⟨processor.clock, rfl, readsClock_of_unread (by simp) _⟩
  · exact ⟨processor.clock, rfl, readsClock_of_unread (by simp) _⟩
  · cases started : (processor.clock.read now).1 with
    | error fault =>
        refine ⟨(processor.clock.read now).2, ?_, _, .reading (.nothing _), ?_⟩ <;>
          simp [readClock, started]
    | ok time =>
        cases ended : ((processor.clock.read now).2.read now).1 <;>
          refine ⟨((processor.clock.read now).2.read now).2, ?_, _,
            .reading (.reading (.nothing _)), ?_⟩ <;>
          simp [readClock, started, ended]

theorem stamp_readsClock (now : Timestamp) (path : String) (processor : Processor) :
    ReadsClock now processor.clock (processor.stamp now path).1
      (processor.stamp now path).2.clock := by
  have once : (processor.stamp now path).2.clock = (processor.clock.read now).2 := by
    cases reading : (processor.clock.read now).1 <;> simp only [stamp, readClock, reading]
  rw [once]
  refine ⟨_, .reading (.nothing _), ?_⟩
  cases reading : (processor.clock.read now).1 <;> simp [stamp, readClock, reading]

theorem touch_readsClock (now : Timestamp) (words : List String) (processor : Processor) :
    ReadsClock now processor.clock (processor.touch now words).1
      (processor.touch now words).2.clock := by
  cases words with
  | nil => exact readsClock_of_unread (by simp [touch]) _
  | cons path others =>
      simp only [touch]
      split
      · exact stamp_readsClock now path processor
      · unfold createFile
        split <;> exact readsClock_of_unread (by simp) _

theorem list_ne_clock (words : List String) (processor : Processor) (fault : Fault) :
    processor.list words ≠ .error (.clock fault) := by
  rw [list]
  split <;> simp

theorem read_ne_clock (words : List String) (processor : Processor) (fault : Fault) :
    processor.read words ≠ .error (.clock fault) := by
  cases words with
  | nil => simp [read]
  | cons path others =>
      rw [read]
      split <;> simp

theorem enter_readsClock (now : Timestamp) (words : List String) (processor : Processor) :
    ReadsClock now processor.clock (processor.enter words).1 (processor.enter words).2.clock := by
  rw [enter]
  split <;> exact readsClock_of_unread (by simp) _

theorem fetch_readsClock (now : Timestamp) (words : List String) (processor : Processor) :
    ReadsClock now processor.clock (processor.fetch words).1 (processor.fetch words).2.clock := by
  rw [fetch]
  split
  · exact readsClock_of_unread (by simp) _
  · cases drawn : processor.network.draw.1 <;>
      simp only [drawn] <;> exact readsClock_of_unread (by simp) _

theorem attempt_readsClock (now : Timestamp) (verb : Verb) (words : List String)
    (processor : Processor) :
    ReadsClock now processor.clock (processor.attempt now verb words).1
      (processor.attempt now verb words).2.clock := by
  cases verb with
  | help | pwd | whoami => exact readsClock_of_unread (by simp [attempt]) _
  | ls => exact (readsClock_of_unread (list_ne_clock words processor) _).map _
  | cat => exact (readsClock_of_unread (read_ne_clock words processor) _).map _
  | cd => exact (enter_readsClock now words processor).map _
  | touch => exact (touch_readsClock now words processor).map _
  | curl => exact fetch_readsClock now words processor
  | nmap =>
      obtain ⟨clock, later, reads⟩ := scan_readsClock now words processor
      simp only [attempt, later]
      exact reads.map _
  | sqlmap =>
      obtain ⟨clock, later, reads⟩ := inject_readsClock now words processor
      simp only [attempt, later]
      exact reads.map _

/-- What a command refuses by itself comes with a text, so only what the clock raises escapes. -/
theorem clock_of_caught {progress : Except Failure Progress} {escape : Escape}
    (escaped : caught progress = .error escape) :
    ∃ fault, progress = .error (.clock fault) ∧ fault.ending = .error escape := by
  rcases progress with failure | reached
  · cases failure with
    | clock fault =>
        refine ⟨fault, rfl, ?_⟩
        rw [caught, Failure.ending, Failure.fault] at escaped
        cases ending : fault.ending with
        | ok result => rw [ending] at escaped; cases escaped
        | error other => rw [ending] at escaped; exact congrArg _ (Except.error.inj escaped)
    | usage | file | delay => cases escaped
  · cases escaped

/-- A line does nothing with the clock but read it, and what escapes has been raised then. -/
theorem execute_readsClock (now : Timestamp) (line : String) (processor : Processor) :
    ∃ readings, processor.clock.Gives now readings (processor.execute now line).2.clock ∧
      ∀ escape, (processor.execute now line).1 = .error escape →
        ∃ fault, .error fault ∈ readings ∧ fault.ending = .error escape := by
  rcases execute_cases now line processor with
    ⟨-, executed⟩ | ⟨name, words, -, -, executed⟩ | ⟨verb, words, -, executed⟩
  · rw [executed]
    exact ⟨[], .nothing _, fun escape escaped => by cases escaped⟩
  · rw [executed]
    exact ⟨[], .nothing _, fun escape escaped => by cases escaped⟩
  · obtain ⟨readings, gives, failed⟩ := attempt_readsClock now verb words (processor.record line)
    rw [executed]
    refine ⟨readings, gives, fun escape escaped => ?_⟩
    have uncaught : caught ((processor.record line).attempt now verb words).1 = .error escape := by
      simp only [dispatch] at escaped
      cases reached : caught ((processor.record line).attempt now verb words).1 with
      | ok progress => rw [reached] at escaped; cases escaped
      | error other => rw [reached] at escaped; exact congrArg _ (Except.error.inj escaped)
    obtain ⟨fault, raised, ending⟩ := clock_of_caught uncaught
    exact ⟨fault, failed fault raised, ending⟩

theorem isTellable_execute (tellable : processor.clock.IsTellable) (now : Timestamp)
    (line : String) : (processor.execute now line).2.clock.IsTellable := by
  obtain ⟨readings, gives, -⟩ := execute_readsClock now line processor
  exact gives.isTellable tellable

theorem clock_execute_of_system (bySystem : processor.clock = .system) (now : Timestamp)
    (line : String) : (processor.execute now line).2.clock = .system := by
  obtain ⟨readings, gives, -⟩ := execute_readsClock now line processor
  rw [bySystem] at gives
  exact gives.of_system

/-- If all that the clock raises can be told, a line has a result. -/
theorem exists_execute_eq_ok (tellable : processor.clock.IsTellable) (now : Timestamp)
    (line : String) : ∃ result, (processor.execute now line).1 = .ok result := by
  obtain ⟨readings, gives, raised⟩ := execute_readsClock now line processor
  cases ending : (processor.execute now line).1 with
  | ok result => exact ⟨result, rfl⟩
  | error escape =>
      obtain ⟨fault, member, untold⟩ := raised escape ending
      have told := tellable fault (gives.raises member)
      rw [Fault.isTellable_of_escape untold] at told
      cases told

end Processor

end CyberRange
