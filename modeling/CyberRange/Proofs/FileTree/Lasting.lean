import CyberRange.Proofs.FileTree.Tidiness

namespace CyberRange

/-! Properties of nodes that last: a tree only changes by a file that is put somewhere or
by a new time, so what these two take from no node holds of all nodes ever after. -/

namespace Node

/-- A property of nodes that does not depend on what becomes of the children, and that
neither a new child nor a new time takes away. -/
structure Lasting (holds : Node → Prop) : Prop where
  adjusted : ∀ node step (inner : Node → Node), (∀ child, (inner child).name = child.name) →
    holds node → holds (adjustChild step inner node)
  stamped : ∀ node time, holds node → holds { node with modified := time }
  received : ∀ node now name content, holds node →
    holds (withChild name (file now name content operatorName) node)
  created : ∀ now name content, holds (file now name content operatorName)

end Node

variable {holds : Node → Prop}

namespace FileSystem

open Node (Lasting)

variable {files after : FileSystem} {now : Timestamp} {path content : String} {file : Node}

theorem everywhere_write (lasting : Lasting holds) (everywhere : files.root.Everywhere holds)
    (written : files.write now path content = .ok (file, after)) :
    after.root.Everywhere holds := by
  obtain ⟨directory, name, -, -, -, rfl, rfl⟩ := of_write written
  exact Node.Everywhere.withChildAt name lasting.adjusted
    (fun node => lasting.received node now name content)
    (Node.everywhere_of_members (lasting.created now name content) fun _ member => (nomatch member))
    everywhere (files.way directory)

theorem everywhere_stamp (lasting : Lasting holds) (everywhere : files.root.Everywhere holds)
    (path : String) (time : Timestamp) :
    (files.change path fun node => { node with modified := time }).root.Everywhere holds :=
  everywhere.changeOwnAt (fun node => { node with modified := time }) (fun _ => rfl)
    (fun _ => rfl) lasting.adjusted (fun node => lasting.stamped node time) _

theorem everywhere_afterCall (lasting : Lasting holds) (everywhere : files.root.Everywhere holds)
    (call : Call) : (files.afterCall call).root.Everywhere holds := by
  rcases afterCall_cases files call with
    same | ⟨path, -, entered⟩ | ⟨now, path, content, file, -, written⟩
  · rw [same]
    exact everywhere
  · rw [root_of_enter entered]
    exact everywhere
  · exact everywhere_write lasting everywhere written

theorem lasting_consistent : Lasting Node.Consistent where
  adjusted _ step _ named own := own.adjustChild step named
  stamped _ _ own := ⟨own.fits, own.sized, own.named⟩
  received _ _ _ _ own := own.withChild rfl
  created now name content := (Node.consistent_file now name content operatorName).here

end FileSystem

end CyberRange
