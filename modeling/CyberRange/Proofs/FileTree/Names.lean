import CyberRange.Proofs.FileTree.Ways
import CyberRange.Proofs.Text.Words

namespace CyberRange.Path

/-! The names on the ways that paths stand for: they are proper, and spelled with the
characters of the path and of the way that it starts from. -/

variable {allowed : Char → Prop} {current way steps : List String} {path step : String}

/-- Proper names, spelled with allowed characters only. -/
def Named (allowed : Char → Prop) (way : List String) : Prop :=
  ∀ step ∈ way, isProper step = true ∧ ∀ c ∈ step.toList, allowed c

theorem isProper_iff {name : String} :
    isProper name = true ↔ name ≠ "" ∧ '/' ∉ name.toList ∧ name ≠ "." ∧ name ≠ ".." := by
  simp [isProper, and_assoc]

theorem of_mem_components (member : step ∈ components path) :
    step ≠ "" ∧ '/' ∉ step.toList ∧ ∀ c ∈ step.toList, c ∈ path.toList := by
  obtain ⟨piece, inside, rfl⟩ := List.mem_map.mp member
  obtain ⟨cut, filled⟩ := List.mem_filter.mp inside
  have letters := Text.of_mem_pieces cut
  rw [String.toList_ofList]
  refine ⟨fun empty => ?_, fun slash => ?_, fun c there => (letters c there).2⟩
  · have none : piece = [] := by simpa using congrArg String.toList empty
    simp [none] at filled
  · have kept := (letters '/' slash).1
    simp at kept

theorem Named.follow (named : Named allowed way) (filled : step ≠ "") (clean : '/' ∉ step.toList)
    (spelled : ∀ c ∈ step.toList, allowed c) : Named allowed (follow way step) := by
  rw [Path.follow]
  split
  · exact named
  · rename_i notDot
    split
    · exact fun other member => named other (List.dropLast_subset way member)
    · rename_i notDots
      intro other member
      rcases List.mem_append.mp member with old | new
      · exact named other old
      · rw [List.mem_singleton.mp new]
        exact ⟨isProper_iff.mpr ⟨filled, clean, notDot, notDots⟩, spelled⟩

theorem Named.foldl_follow (named : Named allowed way)
    (steps_named : ∀ step ∈ steps,
      step ≠ "" ∧ '/' ∉ step.toList ∧ ∀ c ∈ step.toList, allowed c) :
    Named allowed (steps.foldl Path.follow way) := by
  induction steps generalizing way with
  | nil => exact named
  | cons step rest induction =>
      obtain ⟨filled, clean, spelled⟩ := steps_named step List.mem_cons_self
      exact induction (named.follow filled clean spelled) fun other member =>
        steps_named other (List.mem_cons_of_mem _ member)

/-- Wherever a path starts, the way that it stands for consists of proper names. -/
theorem Named.normalize (named : Named allowed current) (atHome : Named allowed home)
    (spelled : ∀ c ∈ path.toList, allowed c) : Named allowed (normalize current path) := by
  have parts : ∀ step ∈ components path,
      step ≠ "" ∧ '/' ∉ step.toList ∧ ∀ c ∈ step.toList, allowed c := by
    intro step member
    obtain ⟨filled, clean, inside⟩ := of_mem_components member
    exact ⟨filled, clean, fun c there => spelled c (inside c there)⟩
  simp only [Path.normalize, start]
  split
  · have nowhere : Named allowed [] := fun _ member => absurd member List.not_mem_nil
    exact nowhere.foldl_follow parts
  · split
    · rename_i rest components_eq
      refine atHome.foldl_follow fun step member => parts step ?_
      rw [components_eq]
      exact List.mem_cons_of_mem _ member
    · exact named.foldl_follow parts

/-- The leaf of a path is what follows its last slash. -/
theorem of_leaf (path : String) :
    '/' ∉ (split path).2.toList ∧ ∀ c ∈ (split path).2.toList, c ∈ path.toList := by
  rcases Text.cutLast_cases '/' path.toList with ⟨clean, cut⟩ | ⟨front, tail, whole, clean, cut⟩
  · simp only [split, cut, String.toList_ofList]
    exact ⟨clean, fun _ there => there⟩
  · simp only [split, cut, String.toList_ofList]
    refine ⟨clean, fun c there => ?_⟩
    rw [whole]
    exact List.mem_append_right _ (List.mem_cons_of_mem _ there)

theorem isProper_of_namesLeaf (leaf : NamesLeaf path) : isProper (split path).2 = true := by
  obtain ⟨filled, notDot, notDots, -⟩ := leaf
  exact isProper_iff.mpr ⟨filled, (of_leaf path).1, notDot, notDots⟩

end CyberRange.Path
