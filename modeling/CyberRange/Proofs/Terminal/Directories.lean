import CyberRange.Proofs.Terminal.Tidiness

namespace CyberRange

/-! Commands and directories: a line can enter a directory but neither makes nor removes
one, and it can spell the way to the directory that it leaves the files in.

Nothing is asked of the names in the tree, only that directories have a mapping and
files have none: a name that no line can spell is never on the way to where a line leads.
-/

namespace FileSystem

variable {files after : FileSystem}

/-- A sound tree, and a current directory of it whose way a line can spell. -/
structure Located (files : FileSystem) : Prop where
  sound : files.root.Sound
  current : Path.Named (fun c => Text.isBlank c = false) files.current
  here : files.IsDirectory files.current

def SameDirectories (before after : FileSystem) : Prop :=
  ∀ way, after.IsDirectory way ↔ before.IsDirectory way

theorem SameDirectories.refl (files : FileSystem) : SameDirectories files files :=
  fun _ => .rfl

theorem SameDirectories.trans {between : FileSystem} (first : SameDirectories files between)
    (second : SameDirectories between after) : SameDirectories files after :=
  fun way => (second way).trans (first way)

theorem located_atHome {root : Node} (sound : root.Sound)
    (homes : (FileSystem.atHome root).IsDirectory Path.home) : (atHome root).Located :=
  ⟨sound, Path.typable_unblank.atHome, homes⟩

theorem Located.enter (located : files.Located) {path : String}
    (unblank : ∀ c ∈ path.toList, Text.isBlank c = false)
    (entered : files.enter path = .ok after) : after.Located ∧ SameDirectories files after := by
  obtain ⟨folder, rfl⟩ := ((entersByMap files path).succeeds after).mp entered
  exact ⟨⟨located.sound, located.current.normalize Path.typable_unblank.atHome unblank, folder⟩,
    .refl files⟩

theorem Located.write (located : files.Located) {now : Timestamp} {path content : String}
    {file : Node} (written : files.write now path content = .ok (file, after)) :
    after.Located ∧ SameDirectories files after := by
  obtain ⟨-, same, sound, -⟩ := standing?_write located.sound written
  obtain ⟨-, directories, -⟩ :=
    (writesByMap located.sound path).effect now content file after written
  refine ⟨⟨sound, ?_, ?_⟩, directories⟩
  · rw [same]
    exact located.current
  · rw [directories, same]
    exact located.here

theorem Located.change (located : files.Located) (path : String) {alter : Node → Node}
    (keeps : ∀ node, Node.LooksLike (alter node) node)
    (spares : ∀ node, (alter node).children = node.children) :
    (files.change path alter).Located ∧ SameDirectories files (files.change path alter) := by
  have unseen (node : Node) (way : List String) :
      (alter node).standing? way = node.standing? way := by
    cases way with
    | nil => exact congrArg some (keeps node).standing
    | cons step rest =>
        rw [Node.standing?, Node.standing?, Node.find?_cons, Node.find?_cons, Node.child?, spares,
          ← Node.child?]
  have directories : SameDirectories files (files.change path alter) := by
    intro way
    rw [IsDirectory, FileSystem.change, Node.standing?_changeAt unseen, IsDirectory]
  exact ⟨⟨located.sound.changeAt keeps spares _, located.current,
    (directories files.current).mpr located.here⟩, directories⟩

theorem Located.effect (located : files.Located) {now : Timestamp} {clock : Clock} {verb : Verb}
    {words : List String} {ending : Ending}
    (unblank : ∀ word ∈ words, ∀ c ∈ word.toList, Text.isBlank c = false)
    (effect : Effect now clock files verb words ending after) :
    after.Located ∧ SameDirectories files after := by
  cases effect with
  | kept => exact ⟨located, .refl files⟩
  | entered entered =>
      refine located.enter ?_ entered
      cases words with
      | nil => exact Text.isBlank_eq_false_of_any (by decide)
      | cons path others => exact unblank path List.mem_cons_self
  | stamped => exact located.change _ (fun _ => ⟨rfl, rfl, rfl⟩) fun _ => rfl
  | created _ written => exact located.write written

end FileSystem

namespace Terminal

variable {terminal : Terminal}

theorem located_afterUse (located : terminal.processor.files.Located) {use : Use}
    (isLine : use.isLine = true) :
    (terminal.afterUse use).processor.files.Located ∧
      FileSystem.SameDirectories terminal.processor.files
        (terminal.afterUse use).processor.files := by
  rcases afterUse_cases terminal use with
    same | ⟨now, verb, words, ending, typed, effect⟩ | ⟨call, rfl, -⟩
  · rw [same]
    exact ⟨located, .refl _⟩
  · exact located.effect typed effect
  · exact absurd isLine Bool.false_ne_true

theorem located_afterUses (located : terminal.processor.files.Located) {uses : List Use}
    (lines : ∀ use ∈ uses, use.isLine = true) :
    (terminal.afterUses uses).processor.files.Located ∧
      FileSystem.SameDirectories terminal.processor.files
        (terminal.afterUses uses).processor.files := by
  induction uses generalizing terminal with
  | nil => exact ⟨located, .refl _⟩
  | cons use rest induction =>
      obtain ⟨next, first⟩ := located_afterUse located (lines use List.mem_cons_self)
      obtain ⟨last, further⟩ := induction next fun other member =>
        lines other (List.mem_cons_of_mem _ member)
      exact ⟨last, first.trans further⟩

end Terminal

end CyberRange
