import CyberRange.Proofs.FileTree.FlatMap
import CyberRange.Shell.Telling

namespace CyberRange

/-! What a command can do to the files.

Only `cd` and `touch` ever change them, and a command that fails has not changed anything
yet; `Effect` says what there is for a command to do, and is the one place where the
commands are looked at one by one.
-/

/-- How a command ends, and what it has made of the files then. -/
inductive Effect (now : Timestamp) (clock : Clock) (before : FileSystem) :
    Verb → List String → Ending → FileSystem → Prop where
  | kept {verb words ending} (spared : ending.succeeds = false ∨ (verb ≠ .cd ∧ verb ≠ .touch)) :
      Effect now clock before verb words ending before
  | entered {words after} (entered : before.enter (words.headD "~") = .ok after) :
      Effect now clock before .cd words (.ok (.success "")) after
  | stamped {path words time} (folder : (before.resolve path).any Node.isDirectory = true)
      (shown : (clock.read now).1 = .ok time) :
      Effect now clock before .touch (path :: words) (.ok (.success ""))
        (before.change path fun node => { node with modified := time })
  | created {path words file after} (free : (before.resolve path).any Node.isDirectory = false)
      (written : before.write now path "" = .ok (file, after)) :
      Effect now clock before .touch (path :: words) (.ok (.success "")) after

namespace Effect

variable {now : Timestamp} {clock : Clock} {before after : FileSystem} {verb : Verb}
  {words : List String} {ending : Ending}

theorem eq_of_not_succeeds (effect : Effect now clock before verb words ending after)
    (failed : ending.succeeds = false) : after = before := by
  cases effect with
  | kept => rfl
  | entered | stamped | created => exact absurd failed.symm Bool.false_ne_true

theorem current_eq (effect : Effect now clock before verb words ending after)
    (other : verb ≠ .cd) : after.current = before.current := by
  cases effect with
  | kept | stamped => rfl
  | entered => exact absurd rfl other
  | created _ written => exact FileSystem.current_of_write written

theorem root_eq (effect : Effect now clock before verb words ending after)
    (other : verb ≠ .touch) : after.root = before.root := by
  cases effect with
  | kept => rfl
  | entered entered => exact FileSystem.root_of_enter entered
  | stamped | created => exact absurd rfl other

end Effect

/-- No failure succeeds, whether it can be told or not. -/
theorem Failure.not_succeeds (failure : Failure) : failure.ending.succeeds = false := by
  rcases failure.fault.ending_cases with ⟨-, message, told⟩ | ⟨-, escape, untold⟩
  · rw [Failure.ending, told]
    rfl
  · rw [Failure.ending, untold]
    rfl

namespace Processor

variable {now : Timestamp} {processor : Processor} {verb : Verb} {words : List String}

/-- What is made of the outcome of a command that does not wait. -/
def settle : Outcome → Ending
  | .ok result => .ok result
  | .error failure => failure.ending

theorem map_caught (outcome : Outcome) (hosts : Hosts) :
    (caught (outcome.map .finished)).map (fun reached => reached.result hosts) =
      settle outcome := by
  cases outcome with
  | ok result => rfl
  | error failure =>
      rw [settle, Except.map, caught]
      cases failure.ending <;> rfl

theorem effect_enter (now : Timestamp) (words : List String) (processor : Processor) :
    Effect now processor.clock processor.files .cd words (settle (processor.enter words).1)
      (processor.enter words).2.files := by
  cases entered : processor.files.enter (words.headD "~") with
  | error fault =>
      simp only [enter, entered]
      exact .kept (.inl (Failure.not_succeeds _))
  | ok files =>
      simp only [enter, entered]
      exact .entered entered

theorem effect_stamp {path : String} (words : List String)
    (folder : (processor.files.resolve path).any Node.isDirectory = true) :
    Effect now processor.clock processor.files .touch (path :: words)
      (settle (processor.stamp now path).1) (processor.stamp now path).2.files := by
  cases shown : (processor.clock.read now).1 with
  | error fault =>
      simp only [stamp, readClock, shown]
      exact .kept (.inl (Failure.not_succeeds _))
  | ok time =>
      simp only [stamp, readClock, shown]
      exact .stamped folder shown

theorem effect_createFile {path : String} (words : List String)
    (free : (processor.files.resolve path).any Node.isDirectory = false) :
    Effect now processor.clock processor.files .touch (path :: words)
      (settle (processor.createFile now path).1) (processor.createFile now path).2.files := by
  unfold createFile
  split
  · rename_i written
    exact .created free written
  · exact .kept (.inl (Failure.not_succeeds _))

theorem effect_touch (now : Timestamp) (words : List String) (processor : Processor) :
    Effect now processor.clock processor.files .touch words
      (settle (processor.touch now words).1) (processor.touch now words).2.files := by
  cases words with
  | nil => exact .kept (.inl (Failure.not_succeeds _))
  | cons path others =>
      simp only [touch]
      split
      · rename_i folder
        exact effect_stamp others folder
      · rename_i free
        exact effect_createFile others (Bool.eq_false_iff.mpr free)

theorem files_fetch (words : List String) (processor : Processor) :
    (processor.fetch words).2.files = processor.files := by
  rw [fetch]
  split
  · rfl
  · cases drawn : processor.network.draw.1 <;> simp only [drawn]

/-- What any command does to the files; `hosts` answer a page that it waits for. -/
theorem effect_dispatch (now : Timestamp) (verb : Verb) (words : List String) (hosts : Hosts)
    (processor : Processor) :
    Effect now processor.clock processor.files verb words
      ((processor.dispatch now verb words).1.map fun reached => reached.result hosts)
      (processor.dispatch now verb words).2.files := by
  cases verb with
  | cd =>
      simp only [dispatch, attempt, map_caught]
      exact effect_enter now words processor
  | touch =>
      simp only [dispatch, attempt, map_caught]
      exact effect_touch now words processor
  | help | ls | pwd | cat | whoami => exact .kept (.inr (by decide))
  | nmap =>
      obtain ⟨clock, later, -⟩ := scan_readsClock now words processor
      simp only [dispatch, attempt, later]
      exact .kept (.inr (by decide))
  | sqlmap =>
      obtain ⟨clock, later, -⟩ := inject_readsClock now words processor
      simp only [dispatch, attempt, later]
      exact .kept (.inr (by decide))
  | curl =>
      simp only [dispatch, attempt, files_fetch]
      exact .kept (.inr (by decide))

/-- What no command changes: the lines recorded so far, and the network but for what has
been drawn of it. -/
structure Kept (before after : Processor) : Prop where
  history : after.history = before.history
  hosts : after.network.hosts = before.network.hosts
  latency : after.network.latency = before.network.latency

theorem kept_withClock (clock : Clock) (processor : Processor) :
    Kept processor { processor with clock } := ⟨rfl, rfl, rfl⟩

theorem kept_touch (now : Timestamp) (words : List String) (processor : Processor) :
    Kept processor (processor.touch now words).2 := by
  cases words with
  | nil => exact ⟨rfl, rfl, rfl⟩
  | cons path others =>
      simp only [touch]
      split
      · cases shown : (processor.clock.read now).1 <;>
          simp only [stamp, readClock, shown] <;> exact ⟨rfl, rfl, rfl⟩
      · unfold createFile
        split <;> exact ⟨rfl, rfl, rfl⟩

theorem kept_fetch (words : List String) (processor : Processor) :
    Kept processor (processor.fetch words).2 := by
  have drawn : processor.network.draw.2.hosts = processor.network.hosts ∧
      processor.network.draw.2.latency = processor.network.latency := by
    rcases processor.network.draw_cases with ⟨-, same⟩ | ⟨-, -, same⟩ | ⟨-, -, delay, same⟩ <;>
      rw [same] <;> exact ⟨rfl, rfl⟩
  rw [fetch]
  split
  · exact ⟨rfl, rfl, rfl⟩
  · cases outcome : processor.network.draw.1 <;>
      simp only [outcome] <;> exact ⟨rfl, drawn.1, drawn.2⟩

theorem kept_dispatch (now : Timestamp) (verb : Verb) (words : List String)
    (processor : Processor) : Kept processor (processor.dispatch now verb words).2 := by
  cases verb with
  | help | ls | pwd | cat | whoami => exact ⟨rfl, rfl, rfl⟩
  | cd =>
      cases entered : processor.files.enter (words.headD "~") <;>
        simp only [dispatch, attempt, enter, entered] <;> exact ⟨rfl, rfl, rfl⟩
  | touch => exact kept_touch now words processor
  | nmap =>
      obtain ⟨clock, later, -⟩ := scan_readsClock now words processor
      simp only [dispatch, attempt, later]
      exact kept_withClock clock processor
  | curl => exact kept_fetch words processor
  | sqlmap =>
      obtain ⟨clock, later, -⟩ := inject_readsClock now words processor
      simp only [dispatch, attempt, later]
      exact kept_withClock clock processor

/-- No line changes the hosts or the window of the delays. -/
theorem network_execute (now : Timestamp) (line : String) (processor : Processor) :
    (processor.execute now line).2.network.hosts = processor.network.hosts ∧
      (processor.execute now line).2.network.latency = processor.network.latency := by
  rcases execute_cases now line processor with
    ⟨-, executed⟩ | ⟨name, words, -, -, executed⟩ | ⟨verb, words, -, executed⟩
  · rw [executed]
    exact ⟨rfl, rfl⟩
  · rw [executed]
    exact ⟨rfl, rfl⟩
  · have kept := kept_dispatch now verb words (processor.record line)
    rw [executed]
    exact ⟨kept.hosts, kept.latency⟩

/-- A line leaves the files as they are, or does to them what a command does with some of
its words. -/
theorem effect_execute (now : Timestamp) (line : String) (processor : Processor) :
    (processor.execute now line).2.files = processor.files ∨
      ∃ verb words ending, (∀ word ∈ words, word ∈ Text.words line) ∧
        Effect now processor.clock processor.files verb words ending
          (processor.execute now line).2.files := by
  rcases execute_cases now line processor with
    ⟨-, executed⟩ | ⟨name, words, -, -, executed⟩ | ⟨verb, words, parts, executed⟩
  · exact .inl (by rw [executed])
  · exact .inl (by rw [executed]; rfl)
  · have typed : ∀ word ∈ words, word ∈ Text.words line := fun word member => by
      rw [parts]
      exact List.mem_cons_of_mem _ member
    have effect := effect_dispatch now verb words processor.network.hosts (processor.record line)
    rw [executed]
    exact .inr ⟨verb, words, _, typed, effect⟩

end Processor

end CyberRange
