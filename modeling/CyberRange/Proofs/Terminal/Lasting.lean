import CyberRange.Proofs.FileTree.Lasting
import CyberRange.Proofs.Terminal.Tidiness

namespace CyberRange

/-! What holds of all nodes and lasts, holds of them whatever is done with a terminal. -/

variable {holds : Node → Prop}

theorem FileSystem.everywhere_effect {files after : FileSystem} {now : Timestamp}
    (lasting : Node.Lasting holds) (everywhere : files.root.Everywhere holds)
    {clock : Clock} {verb : Verb} {words : List String} {ending : Ending}
    (effect : Effect now clock files verb words ending after) : after.root.Everywhere holds := by
  cases effect with
  | kept => exact everywhere
  | entered entered =>
      rw [root_of_enter entered]
      exact everywhere
  | stamped => exact everywhere_stamp lasting everywhere _ _
  | created _ written => exact everywhere_write lasting everywhere written

namespace Terminal

variable {terminal : Terminal}

theorem everywhere_afterUse (lasting : Node.Lasting holds)
    (everywhere : terminal.processor.files.root.Everywhere holds) (use : Use) :
    (terminal.afterUse use).processor.files.root.Everywhere holds := by
  rcases afterUse_cases terminal use with
    same | ⟨now, verb, words, ending, -, effect⟩ | ⟨call, rfl, called⟩
  · rw [same]
    exact everywhere
  · exact FileSystem.everywhere_effect lasting everywhere effect
  · rw [called]
    exact FileSystem.everywhere_afterCall lasting everywhere call

theorem everywhere_afterUses (lasting : Node.Lasting holds)
    (everywhere : terminal.processor.files.root.Everywhere holds) (uses : List Use) :
    (terminal.afterUses uses).processor.files.root.Everywhere holds := by
  induction uses generalizing terminal with
  | nil => exact everywhere
  | cons use rest induction => exact induction (everywhere_afterUse lasting everywhere use)

end Terminal

end CyberRange
