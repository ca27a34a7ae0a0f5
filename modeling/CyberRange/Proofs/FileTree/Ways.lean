import CyberRange.FileTree.Path
import CyberRange.Proofs.Text.Pieces

namespace CyberRange.Path

/-! What paths stand for, by their parts: the way of a path that ends in a proper
name is the way of the part before its last slash, followed by that name. -/

variable {current : List String} {path name : String} {front tail : List Char}

/-- Whether a path can name a file: what is behind its last slash is a proper name,
and it is not the bare sign for home. -/
def NamesLeaf (path : String) : Prop :=
  (split path).2 ≠ "" ∧ (split path).2 ≠ "." ∧ (split path).2 ≠ ".." ∧ path ≠ "~"

theorem filledPieces_append_slash (front tail : List Char) :
    Text.filledPieces (· == '/') (front ++ '/' :: tail) =
      Text.filledPieces (· == '/') front ++ Text.filledPieces (· == '/') tail :=
  Text.filledPieces_append_separator rfl front tail

theorem isSlash_of_not_mem {letters : List Char} (clean : '/' ∉ letters) :
    ∀ c ∈ letters, (c == '/') = false := by
  intro c member
  rw [beq_eq_false_iff_ne]
  rintro rfl
  exact clean member

theorem components_append_slash (front tail : List Char) :
    components (String.ofList (front ++ '/' :: tail)) =
      components (String.ofList front) ++ components (String.ofList tail) := by
  simp only [components, String.toList_ofList, filledPieces_append_slash, List.map_append]

theorem components_of_name (clean : '/' ∉ tail) (filled : tail ≠ []) :
    components (String.ofList tail) = [String.ofList tail] := by
  rw [components, String.toList_ofList,
    Text.filledPieces_of_forall_not filled (isSlash_of_not_mem clean)]
  rfl

theorem follow_of_name {way : List String} (proper : name ≠ "." ∧ name ≠ "..") :
    follow way name = way ++ [name] := by
  rw [follow, if_neg proper.1, if_neg proper.2]

/-- A part that does not start with a slash has a component. -/
theorem components_ne_nil (filled : front ≠ []) (relative : front.head? ≠ some '/') :
    components (String.ofList front) ≠ [] := by
  obtain ⟨c, rest, rfl⟩ := List.exists_cons_of_ne_nil filled
  have letter : (c == '/') = false := by simpa using relative
  rw [components, String.toList_ofList, Text.filledPieces, Text.pieces, if_neg (by simp [letter])]
  cases pieces : Text.pieces (· == '/') rest with
  | nil => simp
  | cons first others => simp

theorem isAbsolute_ofList (letters : List Char) :
    isAbsolute (String.ofList letters) = decide (letters.head? = some '/') := by
  rw [isAbsolute, String.toList_ofList]

theorem isAbsolute_of_not_mem (clean : '/' ∉ tail) : isAbsolute (String.ofList tail) = false := by
  rw [isAbsolute_ofList]
  cases tail with
  | nil => rfl
  | cons c rest =>
      have letter : c ≠ '/' := fun equal => clean (equal ▸ List.mem_cons_self)
      simpa using letter

/-- What is behind a slash is followed from wherever the part in front leads. -/
theorem start_append_slash (filled : front ≠ []) (tail : List Char) :
    start current (String.ofList (front ++ '/' :: tail)) =
      ((start current (String.ofList front)).1,
        (start current (String.ofList front)).2 ++ components (String.ofList tail)) := by
  have head : (front ++ '/' :: tail).head? = front.head? := by
    obtain ⟨c, rest, rfl⟩ := List.exists_cons_of_ne_nil filled
    rfl
  simp only [start, components_append_slash, isAbsolute_ofList, head, decide_eq_true_eq]
  split
  · rfl
  · rename_i relative
    have steps := components_ne_nil filled relative
    cases found : components (String.ofList front) with
    | nil => contradiction
    | cons first rest =>
        by_cases home : first = "~"
        · subst home; rfl
        · simp only [List.cons_append]
          split
          · simp_all
          · split
            · simp_all
            · rfl

theorem normalize_append_slash (filled : front ≠ []) (clean : '/' ∉ tail) (named : tail ≠ []) :
    normalize current (String.ofList (front ++ '/' :: tail)) =
      follow (normalize current (String.ofList front)) (String.ofList tail) := by
  simp only [normalize, start_append_slash filled, components_of_name clean named,
    List.foldl_append, List.foldl_cons, List.foldl_nil]

theorem normalize_slash_name (clean : '/' ∉ tail) (named : tail ≠ []) :
    normalize current (String.ofList ('/' :: tail)) = follow [] (String.ofList tail) := by
  have parts : components (String.ofList ('/' :: tail)) = [String.ofList tail] := by
    have empty : components (String.ofList []) = [] := rfl
    have cut := components_append_slash [] tail
    rwa [components_of_name clean named, empty] at cut
  have absolute : isAbsolute (String.ofList ('/' :: tail)) = true := by
    rw [isAbsolute_ofList]
    rfl
  simp only [normalize, start, absolute, parts, if_true, List.foldl_cons, List.foldl_nil]

theorem normalize_name (clean : '/' ∉ tail) (named : tail ≠ [])
    (notHome : String.ofList tail ≠ "~") :
    normalize current (String.ofList tail) = follow current (String.ofList tail) := by
  simp only [normalize, start, components_of_name clean named, isAbsolute_of_not_mem clean,
    Bool.false_eq_true, if_false]
  split
  · rename_i home
    exact absurd (List.cons.inj home).1 notHome
  · rfl

theorem normalize_dot : normalize current "." = current := rfl

theorem normalize_slash : normalize current "/" = [] := rfl

/-- What follows the last slash of a path is the last component to follow, if there is
anything and it is not the bare sign for home. -/
theorem normalize_split (filled : (split path).2 ≠ "") (notHome : path ≠ "~") :
    normalize current path = follow (normalize current (split path).1) (split path).2 := by
  obtain ⟨letters, rfl⟩ : ∃ letters, path = String.ofList letters := ⟨path.toList, by simp⟩
  rcases Text.cutLast_cases '/' letters with ⟨clean, cut⟩ | ⟨front, tail, rfl, clean, cut⟩
  · simp only [split, String.toList_ofList, cut] at filled ⊢
    have named : letters ≠ [] := by
      rintro rfl
      exact filled rfl
    simp only [isAbsolute_of_not_mem clean, List.isEmpty_nil, if_true, Bool.false_eq_true,
      if_false, normalize_dot]
    exact normalize_name clean named notHome
  · simp only [split, String.toList_ofList, cut] at filled ⊢
    have named : tail ≠ [] := by
      rintro rfl
      exact filled rfl
    by_cases bare : front = []
    · subst bare
      have absolute : isAbsolute (String.ofList ([] ++ '/' :: tail)) = true := by
        rw [isAbsolute_ofList]
        rfl
      simp only [absolute, List.isEmpty_nil, if_true, normalize_slash]
      exact normalize_slash_name clean named
    · have some : front.isEmpty = false := by simpa using bare
      simp only [some, Bool.false_eq_true, if_false]
      exact normalize_append_slash bare clean named

/-- The way of a path that names a leaf ends in that name, and the rest of it is the
way of the directory part. -/
theorem normalize_of_namesLeaf (leaf : NamesLeaf path) :
    normalize current path = normalize current (split path).1 ++ [(split path).2] := by
  obtain ⟨filled, notDot, notDots, notHome⟩ := leaf
  rw [normalize_split filled notHome, follow_of_name ⟨notDot, notDots⟩]

end CyberRange.Path
