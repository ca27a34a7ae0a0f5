import CyberRange.Proofs.Text.Words

namespace CyberRange.Text

/-! Texts joined by a separator: what they are made of, and that they fall apart into the
same texts again. -/

variable {parts : List String} {separator word : String} {c : Char}

theorem of_mem_intercalate (member : c ∈ (String.intercalate separator parts).toList) :
    c ∈ separator.toList ∨ ∃ part ∈ parts, c ∈ part.toList := by
  induction parts with
  | nil => simp at member
  | cons part rest induction =>
      cases rest with
      | nil =>
          rw [String.intercalate_singleton] at member
          exact .inr ⟨part, List.mem_cons_self, member⟩
      | cons next others =>
          simp only [String.intercalate_cons_cons, String.toList_append, List.mem_append] at member
          rcases member with (here | between) | later
          · exact .inr ⟨part, List.mem_cons_self, here⟩
          · exact .inl between
          · exact (induction later).imp_right fun ⟨other, there, inside⟩ =>
              ⟨other, List.mem_cons_of_mem _ there, inside⟩

theorem words_intercalate_space (parts : List String) :
    words (String.intercalate " " parts) = parts.flatMap words := by
  induction parts with
  | nil => rfl
  | cons part rest induction =>
      cases rest with
      | nil => simp
      | cons next others =>
          rw [String.intercalate_cons_cons, words_append_space, List.flatMap_cons, induction]

/-- Spaces in front of a text are no words. -/
theorem words_padLeft (width : Nat) (text : String) : words (padLeft width text) = words text := by
  have spaced (count : Nat) (letters : List Char) :
      filledPieces isBlank (List.replicate count ' ' ++ letters) =
        filledPieces isBlank letters := by
    induction count with
    | zero => rfl
    | succ count induction =>
        rw [List.replicate_succ, List.cons_append]
        exact (filledPieces_append_separator (by decide) [] _).trans induction
  rw [words, padLeft, String.toList_append, String.toList_ofList, spaced, words]

theorem not_mem_padLeft {width : Nat} (different : c ≠ ' ') (clean : c ∉ word.toList) :
    c ∉ (padLeft width word).toList := by
  rw [padLeft, String.toList_append, String.toList_ofList, List.mem_append, not_or]
  exact ⟨fun spaces => different (List.eq_of_mem_replicate spaces), clean⟩

/-- The lines of a text, the empty ones too; one more than there are line feeds. -/
def lines (text : String) : List String :=
  (pieces (· == '\n') text.toList).map String.ofList

theorem lines_append_feed (front back : String) :
    lines (front ++ "\n" ++ back) = lines front ++ lines back := by
  have letters : (front ++ "\n" ++ back).toList = front.toList ++ '\n' :: back.toList := by simp
  have cut : pieces (· == '\n') (front.toList ++ '\n' :: back.toList) =
      pieces (· == '\n') front.toList ++ pieces (· == '\n') back.toList :=
    pieces_append_separator (by rfl) ..
  rw [lines, letters, cut, List.map_append, lines, lines]

theorem lines_of_not_mem (clean : '\n' ∉ word.toList) : lines word = [word] := by
  have none : ∀ c ∈ word.toList, (c == '\n') = false := by
    intro c member
    rw [beq_eq_false_iff_ne]
    rintro rfl
    exact clean member
  rw [lines, pieces_of_forall_not none, List.map_singleton, String.ofList_toList]

theorem lines_intercalate (filled : parts ≠ []) (clean : ∀ part ∈ parts, '\n' ∉ part.toList) :
    lines (String.intercalate "\n" parts) = parts := by
  induction parts with
  | nil => exact absurd rfl filled
  | cons part rest induction =>
      have first := lines_of_not_mem (clean part List.mem_cons_self)
      cases rest with
      | nil => rw [String.intercalate_singleton, first]
      | cons next others =>
          have later := induction (List.cons_ne_nil _ _) fun other member =>
            clean other (List.mem_cons_of_mem _ member)
          rw [String.intercalate_cons_cons, lines_append_feed, first, later, List.singleton_append]

theorem pieces_eq_splitOnP {α : Type u} (separates : α → Bool) (items : List α) :
    pieces separates items = items.splitOnP separates := by
  induction items with
  | nil => rfl
  | cons item rest induction =>
      rw [pieces, List.splitOnP_cons_eq_if_modifyHead, ← induction]
      cases found : pieces separates rest with
      | nil => exact absurd found (pieces_ne_nil separates rest)
      | cons first others => rfl

/-- Its lines, joined again, are the text. -/
theorem intercalate_lines (text : String) : String.intercalate "\n" (lines text) = text := by
  have letters : (lines text).map String.toList = text.toList.splitOn '\n' := by
    simp [lines, pieces_eq_splitOnP, List.splitOn, Function.comp_def]
  rw [← String.toList_inj, String.toList_intercalate, letters]
  exact List.intercalate_splitOn '\n'

/-- The lines of a text in front of the first empty one, and the text behind that. -/
def cutAtEmptyLine (text : String) : Option (List String × String) :=
  match (lines text).dropWhile (· ≠ "") with
  | [] => none
  | _ :: behind => some ((lines text).takeWhile (· ≠ ""), String.intercalate "\n" behind)

theorem cutAtEmptyLine_append {head : List String} (some : head ≠ [])
    (filled : ∀ line ∈ head, line ≠ "") (clean : ∀ line ∈ head, '\n' ∉ line.toList)
    (text : String) :
    cutAtEmptyLine (String.intercalate "\n" head ++ "\n\n" ++ text) = .some (head, text) := by
  have feeds : String.intercalate "\n" head ++ "\n\n" ++ text =
      String.intercalate "\n" head ++ "\n" ++ ("" ++ "\n" ++ text) := by
    simp [String.append_assoc, ← String.toList_inj]
  have cut : lines (String.intercalate "\n" head ++ "\n\n" ++ text) = head ++ "" :: lines text := by
    rw [feeds, lines_append_feed, lines_append_feed, lines_intercalate some clean,
      lines_of_not_mem (by decide)]
    rfl
  have passes : ∀ line ∈ head, decide (line ≠ "") = true := fun line member =>
    decide_eq_true (filled line member)
  rw [cutAtEmptyLine, cut, List.dropWhile_append_of_pos passes, List.takeWhile_append_of_pos passes,
    List.dropWhile_cons_of_neg (by simp), List.takeWhile_cons_of_neg (by simp)]
  simp only [List.append_nil, intercalate_lines]

end CyberRange.Text
