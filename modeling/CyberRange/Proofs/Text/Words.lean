import CyberRange.Proofs.Text.Pieces
import Mathlib.Data.List.DropRight

namespace CyberRange.Text

/-! Words of a line and its ends: which characters they have, and when there are none. -/

variable {α : Type u} {separates : α → Bool} {line text word : String}

theorem of_mem_pieces {items piece : List α} (member : piece ∈ pieces separates items) :
    ∀ item ∈ piece, separates item = false ∧ item ∈ items := by
  induction items generalizing piece with
  | nil =>
      rw [pieces, List.mem_singleton] at member
      subst member
      simp
  | cons first rest induction =>
      have later : ∀ {piece}, piece ∈ pieces separates rest →
          ∀ item ∈ piece, separates item = false ∧ item ∈ first :: rest := by
        intro piece member item inside
        obtain ⟨kept, there⟩ := induction member item inside
        exact ⟨kept, List.mem_cons_of_mem _ there⟩
      rw [pieces] at member
      split at member
      · rcases List.mem_cons.mp member with rfl | member
        · simp
        · exact later member
      · rename_i kept
        cases parts : pieces separates rest with
        | nil => exact absurd parts (pieces_ne_nil separates rest)
        | cons start others =>
            rw [parts] at member later
            rcases List.mem_cons.mp member with rfl | member
            · intro item inside
              rcases List.mem_cons.mp inside with rfl | inside
              · exact ⟨by simpa using kept, List.mem_cons_self⟩
              · exact later List.mem_cons_self item inside
            · exact later (List.mem_cons_of_mem _ member)

/-- The items of a list that has no filled piece are all separators. -/
theorem filledPieces_eq_nil_iff {items : List α} :
    filledPieces separates items = [] ↔ ∀ item ∈ items, separates item = true := by
  induction items with
  | nil => simp [filledPieces, pieces]
  | cons first rest induction =>
      rw [List.forall_mem_cons, ← induction]
      cases cuts : separates first with
      | true => simp [filledPieces, pieces, cuts]
      | false =>
          cases parts : pieces separates rest with
          | nil => exact absurd parts (pieces_ne_nil separates rest)
          | cons start others => simp [filledPieces, pieces, cuts, parts]

theorem of_mem_words (member : word ∈ words line) :
    ∀ c ∈ word.toList, isBlank c = false ∧ c ∈ line.toList := by
  obtain ⟨piece, inside, rfl⟩ := List.mem_map.mp member
  rw [String.toList_ofList]
  exact of_mem_pieces (List.mem_of_mem_filter inside)

theorem words_append_space (front back : String) :
    words (front ++ " " ++ back) = words front ++ words back := by
  have letters : (front ++ " " ++ back).toList = front.toList ++ ' ' :: back.toList := by simp
  rw [words, letters, filledPieces_append_separator (by decide), List.map_append, words, words]

/-- A text without blanks is one word. -/
theorem words_of_unblank (filled : word ≠ "") (unblank : ∀ c ∈ word.toList, isBlank c = false) :
    words word = [word] := by
  have letters : word.toList ≠ [] := fun none => filled (String.toList_eq_nil_iff.mp none)
  rw [words, filledPieces_of_forall_not letters unblank, List.map_singleton, String.ofList_toList]

/-- A text that stands for itself among words. -/
structure IsWord (text : String) : Prop where
  filled : text ≠ ""
  unblank : ∀ c ∈ text.toList, isBlank c = false

theorem IsWord.words_eq (word : IsWord text) : words text = [text] :=
  words_of_unblank word.filled word.unblank

theorem IsWord.append {back : String} (word : IsWord text)
    (unblank : ∀ c ∈ back.toList, isBlank c = false) : IsWord (text ++ back) where
  filled empty := word.filled (String.append_eq_empty_iff.mp empty).1
  unblank c member := by
    rw [String.toList_append, List.mem_append] at member
    exact member.elim (word.unblank c) (unblank c)

theorem isBlank_eq_false_of_any (none : text.toList.any isBlank = false) :
    ∀ c ∈ text.toList, isBlank c = false := by
  simpa using none

theorem words_eq_nil_iff : words line = [] ↔ ∀ c ∈ line.toList, isBlank c = true := by
  rw [words, List.map_eq_nil_iff, filledPieces_eq_nil_iff]

theorem trimWhere_eq_rdropWhile (unwanted : Char → Bool) (letters : List Char) :
    trimWhere unwanted letters = (letters.dropWhile unwanted).rdropWhile unwanted := rfl

/-- What is left of a list after trimming starts and ends with something wanted. -/
theorem trimWhere_trimWhere (unwanted : Char → Bool) (letters : List Char) :
    trimWhere unwanted (trimWhere unwanted letters) = trimWhere unwanted letters := by
  have start : (trimWhere unwanted letters).dropWhile unwanted = trimWhere unwanted letters := by
    rw [List.dropWhile_eq_self_iff]
    intro filled
    have front := List.rdropWhile_prefix unwanted (l := letters.dropWhile unwanted)
    have whole : 0 < (letters.dropWhile unwanted).length :=
      Nat.lt_of_lt_of_le filled front.length_le
    have same : (trimWhere unwanted letters)[0] = (letters.dropWhile unwanted)[0] :=
      front.getElem filled
    rw [same]
    exact List.dropWhile_get_zero_not unwanted letters whole
  rw [trimWhere_eq_rdropWhile, start, trimWhere_eq_rdropWhile, List.rdropWhile_idempotent]

theorem strip_strip (text : String) : strip (strip text) = strip text := by
  rw [strip, strip, String.toList_ofList, trimWhere_trimWhere]

/-- A text whose characters are all blank has nothing left after trimming. -/
theorem strip_eq_empty_of_forall_blank (blank : ∀ c ∈ text.toList, isBlank c = true) :
    strip text = "" := by
  rw [strip, trimWhere, List.dropWhile_eq_nil_iff.mpr blank]
  rfl

theorem strip_eq_empty_iff : strip text = "" ↔ ∀ c ∈ text.toList, isBlank c = true := by
  refine ⟨fun empty c member => ?_, strip_eq_empty_of_forall_blank⟩
  have none : trimWhere isBlank text.toList = [] := by
    rwa [strip, ← String.toList_inj, String.toList_ofList] at empty
  rw [trimWhere_eq_rdropWhile, List.rdropWhile_eq_nil_iff] at none
  rw [← List.takeWhile_append_dropWhile (p := isBlank) (l := text.toList)] at member
  rcases List.mem_append.mp member with front | back
  · exact List.mem_takeWhile_imp front
  · exact none c back

/-- What is left of a line after trimming has a word, if anything is left. -/
theorem words_strip_ne_nil (filled : strip text ≠ "") : words (strip text) ≠ [] := by
  intro none
  have blank := strip_eq_empty_of_forall_blank (words_eq_nil_iff.mp none)
  rw [strip_strip] at blank
  exact filled blank

end CyberRange.Text
