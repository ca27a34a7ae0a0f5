import CyberRange.Proofs.FileTree.Names
import CyberRange.Proofs.Text.Joining

namespace CyberRange.Path

/-! A rendered way, read as a path, is that way again, from whatever directory it is
read; so two ways are never rendered alike. -/

variable {allowed : Char → Prop} {way : List String} {step : String}

/-- A slash between two paths separates their components. -/
theorem components_append (front back : String) :
    components (front ++ "/" ++ back) = components front ++ components back := by
  have cut := components_append_slash front.toList back.toList
  have letters : String.ofList (front.toList ++ '/' :: back.toList) = front ++ "/" ++ back :=
    String.toList_inj.mp (by simp)
  rwa [letters, String.ofList_toList, String.ofList_toList] at cut

theorem components_slash (path : String) : components ("/" ++ path) = components path :=
  components_append "" path

theorem components_of_step (filled : step ≠ "") (clean : '/' ∉ step.toList) :
    components step = [step] := by
  have letters : step.toList ≠ [] := fun none => filled (String.toList_eq_nil_iff.mp none)
  simpa using components_of_name clean letters

/-- Steps joined by slashes fall apart into the same steps. -/
theorem components_intercalate (clean : ∀ step ∈ way, step ≠ "" ∧ '/' ∉ step.toList) :
    components (String.intercalate "/" way) = way := by
  induction way with
  | nil => rfl
  | cons step rest induction =>
      obtain ⟨filled, slashless⟩ := clean step List.mem_cons_self
      have tail := induction fun other member => clean other (List.mem_cons_of_mem _ member)
      cases rest with
      | nil => rw [String.intercalate_singleton, components_of_step filled slashless]
      | cons next others =>
          rw [String.intercalate_cons_cons, components_append, tail,
            components_of_step filled slashless, List.singleton_append]

theorem Named.components_render (named : Named allowed way) : components (render way) = way := by
  rw [render, components_slash]
  refine components_intercalate fun step member => ?_
  obtain ⟨filled, slashless, -⟩ := isProper_iff.mp (named step member).1
  exact ⟨filled, slashless⟩

/-- Proper names are steps down, wherever they are followed from. -/
theorem Named.foldl_follow_eq (named : Named allowed way) (front : List String) :
    way.foldl Path.follow front = front ++ way := by
  induction way generalizing front with
  | nil => rw [List.foldl_nil, List.append_nil]
  | cons step rest induction =>
      obtain ⟨-, -, proper⟩ := isProper_iff.mp (named step List.mem_cons_self).1
      rw [List.foldl_cons, follow_of_name proper,
        induction fun other member => named other (List.mem_cons_of_mem _ member),
        List.append_assoc, List.singleton_append]

theorem isAbsolute_render (way : List String) : isAbsolute (render way) = true := by
  simp [isAbsolute, render]

theorem render_ne_empty (way : List String) : render way ≠ "" := by
  simp [render, ← String.toList_inj]

theorem Named.normalize_render (named : Named allowed way) (current : List String) :
    Path.normalize current (render way) = way := by
  simp only [Path.normalize, start, isAbsolute_render, named.components_render, if_true]
  exact named.foldl_follow_eq []

/-- A rendered way is spelled with slashes and with the characters of its names. -/
theorem Named.spelled_render (named : Named allowed way) (slash : allowed '/') :
    ∀ c ∈ (render way).toList, allowed c := by
  intro c member
  rw [render, String.toList_append, List.mem_append] at member
  rcases member with first | member
  · rw [List.mem_singleton.mp first]
    exact slash
  · rcases Text.of_mem_intercalate member with between | ⟨step, there, inside⟩
    · rw [List.mem_singleton.mp between]
      exact slash
    · exact (named step there).2 c inside

end CyberRange.Path
