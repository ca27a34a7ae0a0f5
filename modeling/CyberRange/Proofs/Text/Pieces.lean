import CyberRange.Text.Blank
import Mathlib.Data.List.TakeWhile

namespace CyberRange.Text

/-! Cutting at separators: how the pieces of a text follow from those of its parts,
and where the last separator stands. -/

variable {α : Type u} {separates : α → Bool}

theorem pieces_of_forall_not {items : List α} (none : ∀ item ∈ items, separates item = false) :
    pieces separates items = [items] := by
  induction items with
  | nil => rfl
  | cons item rest induction =>
      have inner := induction fun other member => none other (List.mem_cons_of_mem _ member)
      have outer := none item List.mem_cons_self
      simp only [pieces, outer, inner, Bool.false_eq_true, if_false]

theorem pieces_append_of_forall_not {front back first : List α} {others : List (List α)}
    (none : ∀ item ∈ front, separates item = false)
    (parts : pieces separates back = first :: others) :
    pieces separates (front ++ back) = (front ++ first) :: others := by
  induction front with
  | nil => exact parts
  | cons item rest induction =>
      have inner := induction fun other member => none other (List.mem_cons_of_mem _ member)
      have outer := none item List.mem_cons_self
      simp only [List.cons_append, pieces, outer, inner, Bool.false_eq_true, if_false]

theorem pieces_append_separator {separator : α} (cuts : separates separator = true)
    (front back : List α) :
    pieces separates (front ++ separator :: back) =
      pieces separates front ++ pieces separates back := by
  induction front with
  | nil => simp only [List.nil_append, pieces, cuts, if_true, List.cons_append]
  | cons item rest induction =>
      simp only [List.cons_append, pieces, induction]
      cases separates item with
      | true => rfl
      | false =>
          cases parts : pieces separates rest with
          | nil => exact absurd parts (pieces_ne_nil separates rest)
          | cons first others => rfl

theorem filledPieces_append_separator {separator : α} (cuts : separates separator = true)
    (front back : List α) :
    filledPieces separates (front ++ separator :: back) =
      filledPieces separates front ++ filledPieces separates back := by
  simp only [filledPieces, pieces_append_separator cuts, List.filter_append]

theorem filledPieces_of_forall_not {items : List α} (filled : items ≠ [])
    (none : ∀ item ∈ items, separates item = false) : filledPieces separates items = [items] := by
  rw [filledPieces, pieces_of_forall_not none, List.filter_cons_of_pos]
  · rfl
  · simpa using filled

theorem cutFirst_of_not_mem {separator : Char} {letters : List Char} (clean : separator ∉ letters) :
    cutFirst separator letters = (letters, none) := by
  have passes : ∀ c ∈ letters, (c != separator) = true := by
    intro c member
    rw [bne_iff_ne]
    rintro rfl
    exact clean member
  rw [cutFirst, List.takeWhile_eq_self_iff.mpr passes, List.dropWhile_eq_nil_iff.mpr passes]

/-- A text either has no separator, and all of it comes last, or falls into what is
in front of the last separator and what is behind. -/
theorem cutLast_cases (separator : Char) (letters : List Char) :
    (separator ∉ letters ∧ cutLast separator letters = ([], letters)) ∨
      ∃ front tail, letters = front ++ separator :: tail ∧ separator ∉ tail ∧
        cutLast separator letters = (front, tail) := by
  have whole := List.takeWhile_append_dropWhile (p := (· != separator)) (l := letters.reverse)
  have clean : separator ∉ letters.reverse.takeWhile (· != separator) := by
    intro member
    have differs := List.mem_takeWhile_imp member
    simp at differs
  cases rest : letters.reverse.dropWhile (· != separator) with
  | nil =>
      rw [rest, List.append_nil] at whole
      refine .inl ⟨?_, ?_⟩
      · rw [whole, List.mem_reverse] at clean
        exact clean
      · simp [cutLast, rest, whole]
  | cons found back =>
      have stops : found = separator := by
        have head := List.head?_dropWhile_not (· != separator) letters.reverse
        simpa [rest] using head
      subst stops
      refine .inr ⟨back.reverse, (letters.reverse.takeWhile (· != found)).reverse, ?_, ?_, ?_⟩
      · rw [rest] at whole
        simpa using (congrArg List.reverse whole).symm
      · simpa using clean
      · simp [cutLast, rest]

end CyberRange.Text
