import CyberRange.FileTree.Seed
import CyberRange.Proofs.FileTree.Lookup

namespace CyberRange.Node

/-! Sound trees: what their nodes have, and how they are built. -/

variable {node found : Node} {way : List String}

theorem Sound.fits (sound : node.Sound) : node.fitsKind = true :=
  sound [] node rfl

theorem Sound.at (sound : node.Sound) (leads : node.find? way = some found) : found.Sound := by
  intro rest last further
  refine sound (way ++ rest) last ?_
  rw [find?_append, leads]
  exact further

theorem Sound.children_of_file (sound : node.Sound) (isFile : node.isDirectory = false) :
    node.children = none := by
  have fits := sound.fits
  simpa [fitsKind, isFile] using fits

theorem Sound.children_of_directory (sound : node.Sound) (isFolder : node.isDirectory = true) :
    ∃ members, node.children = some members := by
  have fits := sound.fits
  simp only [fitsKind, isFolder, decide_eq_true_eq] at fits
  exact Option.isSome_iff_exists.mp fits.symm

/-- Soundness is a matter of the node itself and of its children. -/
theorem sound_of_children (fits : node.fitsKind = true)
    (below : ∀ key child, node.child? key = some child → child.Sound) : node.Sound := by
  intro way found leads
  cases way with
  | nil =>
      obtain rfl : node = found := Option.some.inj leads
      exact fits
  | cons key rest =>
      rw [find?_cons, Option.bind_eq_some_iff] at leads
      obtain ⟨child, held, further⟩ := leads
      exact below key child held rest found further

/-- Nothing is below a node without a mapping. -/
theorem find?_of_children_eq_none (bare : node.children = none) (key : String)
    (rest : List String) : node.find? (key :: rest) = none := by
  rw [find?_cons, child?_of_children_eq_none bare]
  rfl

theorem sound_file (now : Timestamp) (name content owner : String) :
    (file now name content owner).Sound :=
  sound_of_children rfl fun _ _ held => nomatch held

theorem sound_directory {children : List Node} (sound : ∀ child ∈ children, child.Sound)
    (now : Timestamp) (name owner : String) : (directory now name children owner).Sound := by
  refine sound_of_children rfl fun key child held => ?_
  have inside := Entries.mem_of_mem_ofPairs (Entries.mem_of_get? held)
  obtain ⟨member, member_mem, same⟩ := List.mem_map.mp inside
  obtain ⟨-, rfl⟩ := Prod.mk.inj same
  exact sound member member_mem

theorem sound_seed (now : Timestamp) : (seed now).Sound := by
  have empty : ∀ child ∈ ([] : List Node), child.Sound := fun _ member => nomatch member
  have operator : (directory now "operator"
      [file now "notes.txt" missionNotes operatorName, directory now "tools" [] operatorName]
      operatorName).Sound := by
    refine sound_directory ?_ _ _ _
    simp only [List.mem_cons, List.not_mem_nil, or_false, forall_eq_or_imp, forall_eq]
    exact ⟨sound_file _ _ _ _, sound_directory empty _ _ _⟩
  refine sound_directory ?_ _ _ _
  simp only [List.mem_cons, List.not_mem_nil, or_false, forall_eq_or_imp, forall_eq]
  refine ⟨sound_directory ?_ _ _ _, sound_directory empty _ _ _, sound_directory ?_ _ _ _⟩
  · simpa using operator
  · simpa using sound_file _ _ _ _

end CyberRange.Node
