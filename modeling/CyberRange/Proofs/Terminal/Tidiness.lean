import CyberRange.Proofs.FileTree.Tidiness
import CyberRange.Proofs.Shell.Effects
import CyberRange.Proofs.Terminal.InTurn

namespace CyberRange

/-! The files behind a terminal stay tidy, whatever is done with it.

Names enter a tree by `touch` and the current directory by `cd`, both as words of a line;
so the characters of names are those of words, and a blank is not among them unless the
files are also used directly.
-/

variable {allowed : Char → Prop}

/-- The characters of what is typed, home among it. -/
structure Path.Typable (allowed : Char → Prop) : Prop where
  atHome : Path.Named allowed Path.home
  tilde : allowed '~'

namespace FileSystem

variable {files : FileSystem}

theorem Tidy.afterCall (tidy : files.Tidy allowed) (typable : Path.Typable allowed)
    (call : Call) (spelled : ∀ c, allowed c) : (files.afterCall call).Tidy allowed := by
  rcases afterCall_cases files call with
    same | ⟨path, -, entered⟩ | ⟨now, path, content, file, -, written⟩
  · rw [same]
    exact tidy
  · exact tidy.enter typable.atHome (fun c _ => spelled c) entered
  · exact tidy.write (fun c _ => spelled c) written

theorem Tidy.effect (tidy : files.Tidy allowed) (typable : Path.Typable allowed)
    {now : Timestamp} {clock : Clock} {verb : Verb} {words : List String} {ending : Ending}
    {after : FileSystem} (spelled : ∀ word ∈ words, ∀ c ∈ word.toList, allowed c)
    (effect : Effect now clock files verb words ending after) : after.Tidy allowed := by
  cases effect with
  | kept => exact tidy
  | entered entered =>
      refine tidy.enter typable.atHome ?_ entered
      cases words with
      | nil =>
          intro c typed
          rw [List.mem_singleton.mp (typed : c ∈ ['~'])]
          exact typable.tilde
      | cons path others => exact spelled path List.mem_cons_self
  | stamped => exact tidy.stamp _ _
  | created _ written => exact tidy.write (spelled _ List.mem_cons_self) written

/-- A tree without faults and with proper names, and a current directory in it. -/
structure Orderly (files : FileSystem) : Prop where
  audited : files.root.audit = []
  consistent : files.root.Everywhere Node.Consistent
  proper : files.root.Everywhere fun node =>
    ∀ key ∈ Entries.keys node.members, Path.isProper key = true
  current : ∀ step ∈ files.current, Path.isProper step = true
  here : files.IsDirectory files.current

/-- No name of the tree and no step to the current directory holds a blank. -/
structure Unblank (files : FileSystem) : Prop where
  names : files.root.Everywhere fun node => ∀ c ∈ node.name.toList, Text.isBlank c = false
  current : ∀ step ∈ files.current, ∀ c ∈ step.toList, Text.isBlank c = false

theorem Tidy.orderly (tidy : files.Tidy allowed) : files.Orderly where
  audited := Node.audit_eq_nil_iff.mpr (tidy.root.mono fun _ node => node.toConsistent)
  consistent := tidy.root.mono fun _ node => node.toConsistent
  proper := tidy.root.mono fun _ node => node.proper
  current step member := (tidy.current step member).1
  here := tidy.here

theorem Tidy.unblank (tidy : files.Tidy fun c => Text.isBlank c = false) : files.Unblank where
  names := tidy.root.mono fun _ node => node.spelled
  current step member := (tidy.current step member).2

end FileSystem

theorem Path.typable_any : Path.Typable fun _ => True :=
  ⟨fun step member => ⟨by revert step; decide, fun _ _ => trivial⟩, trivial⟩

theorem Path.typable_unblank : Path.Typable fun c => Text.isBlank c = false := by
  have steps : ∀ step ∈ Path.home,
      Path.isProper step = true ∧ step.toList.any Text.isBlank = false := by decide
  refine ⟨fun step member => ?_, by decide⟩
  obtain ⟨proper, unblank⟩ := steps step member
  exact ⟨proper, Text.isBlank_eq_false_of_any unblank⟩

namespace Terminal

variable {terminal : Terminal}

/-- What is done with a terminal and the files behind it. -/
inductive Use where
  | execute (now : Timestamp) (line : String)
  | submit (now : Timestamp) (line : String)
  | direct (call : FileSystem.Call)

def Use.isLine : Use → Bool
  | .execute _ _ | .submit _ _ => true
  | .direct _ => false

def afterUse (terminal : Terminal) : Use → Terminal
  | .execute now line =>
      { terminal with processor := (terminal.processor.execute now line).2 }
  | .submit now line => (terminal.submit now line).2
  | .direct call =>
      { terminal with
        processor := { terminal.processor with files := terminal.processor.files.afterCall call } }

def afterUses (terminal : Terminal) (uses : List Use) : Terminal :=
  uses.foldl afterUse terminal

/-- A use leaves the files as they are, does to them what a command does with words, or is
a direct call. -/
theorem afterUse_cases (terminal : Terminal) (use : Use) :
    (terminal.afterUse use).processor.files = terminal.processor.files ∨
      (∃ now verb words ending, (∀ word ∈ words, ∀ c ∈ word.toList, Text.isBlank c = false) ∧
        Effect now terminal.processor.clock terminal.processor.files verb words ending
          (terminal.afterUse use).processor.files) ∨
      ∃ call, use = .direct call ∧
        (terminal.afterUse use).processor.files = terminal.processor.files.afterCall call := by
  have executed (now : Timestamp) (line : String) :
      (terminal.processor.execute now line).2.files = terminal.processor.files ∨
        ∃ moment verb words ending,
          (∀ word ∈ words, ∀ c ∈ word.toList, Text.isBlank c = false) ∧
            Effect moment terminal.processor.clock terminal.processor.files verb words ending
              (terminal.processor.execute now line).2.files :=
    (terminal.processor.effect_execute now line).imp_right
      fun ⟨verb, words, ending, typed, effect⟩ => ⟨now, verb, words, ending,
        fun word member c inside => (Text.of_mem_words (typed word member) c inside).1, effect⟩
  cases use with
  | direct call => exact .inr (.inr ⟨call, rfl, rfl⟩)
  | execute now line => exact (executed now line).imp_right .inl
  | submit now line =>
      rw [afterUse]
      rcases submit_cases now line terminal with
        ⟨-, submitted⟩ | ⟨-, submitted⟩ | ⟨command, -, submitted⟩
      · exact .inl (by rw [submitted])
      · exact .inl (by rw [submitted]; rfl)
      · rw [submitted, processor_display]
        exact (executed now command).imp_right .inl

/-- A use keeps the files tidy if what it writes is spelled with allowed characters: that
holds of all words, unless blanks are wanted, and of direct calls if nothing is excluded. -/
theorem tidy_afterUse (tidy : terminal.processor.files.Tidy allowed)
    (typable : Path.Typable allowed) (use : Use)
    (unblank : ∀ c, Text.isBlank c = false → allowed c)
    (free : use.isLine = true ∨ ∀ c, allowed c) :
    (terminal.afterUse use).processor.files.Tidy allowed := by
  rcases afterUse_cases terminal use with
    same | ⟨now, verb, words, ending, typed, effect⟩ | ⟨call, rfl, called⟩
  · rw [same]
    exact tidy
  · exact tidy.effect typable
      (fun word member c inside => unblank c (typed word member c inside)) effect
  · rw [called]
    rcases free with line | every
    · exact absurd line Bool.false_ne_true
    · exact tidy.afterCall typable call every

theorem tidy_afterUses (tidy : terminal.processor.files.Tidy allowed)
    (typable : Path.Typable allowed) {uses : List Use}
    (unblank : ∀ c, Text.isBlank c = false → allowed c)
    (free : (∀ use ∈ uses, use.isLine = true) ∨ ∀ c, allowed c) :
    (terminal.afterUses uses).processor.files.Tidy allowed := by
  induction uses generalizing terminal with
  | nil => exact tidy
  | cons use rest induction =>
      have first := tidy_afterUse tidy typable use unblank
        (free.imp_left fun lines => lines use List.mem_cons_self)
      exact induction first
        (free.imp_left fun lines other member => lines other (List.mem_cons_of_mem _ member))

/-- From a tree without faults and with proper names, in which home is a directory, every
run of uses ends in such a tree, and the current directory is one of it; from the seed
tree, lines alone bring no blank into a name. -/
theorem orderly_afterUses (terminal : Terminal) {root : Node} (clean : root.audit = [])
    (proper : root.Everywhere fun node =>
      ∀ key ∈ Entries.keys node.members, Path.isProper key = true)
    (atHome : (FileSystem.atHome root).IsDirectory Path.home)
    (started : terminal.processor.files = .atHome root) (uses : List Use) :
    (terminal.afterUses uses).processor.files.Orderly ∧
      ∀ now, root = .seed now → (∀ use ∈ uses, use.isLine = true) →
        (terminal.afterUses uses).processor.files.Unblank := by
  have consistent := Node.audit_eq_nil_iff.mp clean
  refine ⟨?_, fun now seeded lines => ?_⟩
  · have tidy : terminal.processor.files.Tidy fun _ => True := by
      rw [started]
      exact ⟨fun node inside => ⟨consistent node inside, proper node inside, fun _ _ => trivial⟩,
        Path.typable_any.atHome, atHome⟩
    exact (tidy_afterUses tidy Path.typable_any (fun _ _ => trivial)
      (.inr fun _ => trivial)).orderly
  · have tidy : terminal.processor.files.Tidy fun c => Text.isBlank c = false := by
      rw [started, seeded]
      rw [seeded] at atHome
      exact ⟨Node.everywhere_seed now, Path.typable_unblank.atHome, atHome⟩
    exact (tidy_afterUses tidy Path.typable_unblank (fun _ unblank => unblank)
      (.inl lines)).unblank

/-- A session of lines only, with a file made from below its directory and two lines that
are refused. -/
theorem orderly_afterUses_lines :
    let terminal := create default (.fresh default .instant (.constant 0.5))
    let uses : List Use :=
      [.execute default "cd tools", .submit default "\ttouch ..//./a.b  c ",
        .submit default "cd a.b", .execute default "touch /etc/x/y", .submit default "cd .."]
    let files := (terminal.afterUses uses).processor.files
    (Node.seed default).audit = [] ∧
      (FileSystem.atHome (.seed default)).IsDirectory Path.home ∧
      files.content? ["home", "operator", "a.b"] = some "" ∧ files.Orderly ∧ files.Unblank := by
  intro terminal uses files
  have tidy := Node.everywhere_seed default
  have clean : (Node.seed default).audit = [] :=
    Node.audit_eq_nil_iff.mpr (tidy.mono fun _ node => node.toConsistent)
  have atHome : (FileSystem.atHome (.seed default)).IsDirectory Path.home := by decide +kernel
  obtain ⟨orderly, unblank⟩ := orderly_afterUses terminal clean
    (tidy.mono fun _ node => node.proper) atHome rfl uses
  exact ⟨clean, atHome, by decide +kernel, orderly, unblank default rfl (by decide)⟩

end Terminal

end CyberRange
