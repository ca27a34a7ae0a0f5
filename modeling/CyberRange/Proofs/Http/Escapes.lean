import CyberRange.Http.Url
import CyberRange.Proofs.Http.Utf8
import CyberRange.Proofs.Text.Pieces

namespace CyberRange.Url

/-! Escaping is undone by reading: a text that holds no escape of its own is read back
as it was, whatever had to be escaped in it.  Cutting at slashes, the escaped pieces
are those of the text. -/

variable {kept : Char → Bool} {letters rest more : List Char} {c : Char} {byte : UInt8}
  {fuel : Nat}

/-- Whether a percent sign starts an escape somewhere in a text. -/
def hasEscape : List Char → Bool
  | [] => false
  | c :: rest => (escaped? (c :: rest)).isSome || hasEscape rest

theorem hasEscape_cons :
    hasEscape (c :: rest) = false ↔ escaped? (c :: rest) = none ∧ hasEscape rest = false := by
  rw [hasEscape, Bool.or_eq_false_iff, Option.isSome_eq_false_iff, Option.isNone_iff_eq_none]

theorem escaped?_eq_some_iff :
    escaped? letters = some (byte, rest) ↔
      ∃ first second high low, letters = '%' :: first :: second :: rest ∧
        Json.hexValue? first = some high ∧ Json.hexValue? second = some low ∧
        UInt8.ofNat (high * 16 + low) = byte := by
  constructor
  · intro starts
    unfold escaped? at starts
    split at starts
    · rename_i first second behind
      cases one : Json.hexValue? first with
      | none => simp [one] at starts
      | some high =>
          cases two : Json.hexValue? second with
          | none => simp [one, two] at starts
          | some low =>
              simp only [one, two, Option.some.injEq, Prod.mk.injEq] at starts
              obtain ⟨value, rfl⟩ := starts
              exact ⟨first, second, high, low, rfl, one, two, value⟩
    · contradiction
  · rintro ⟨first, second, high, low, rfl, one, two, value⟩
    simp only [escaped?, one, two, value]

theorem escaped?_append (starts : escaped? letters = some (byte, rest)) (more : List Char) :
    escaped? (letters ++ more) = some (byte, rest ++ more) := by
  obtain ⟨first, second, high, low, rfl, one, two, value⟩ := escaped?_eq_some_iff.mp starts
  exact escaped?_eq_some_iff.mpr ⟨first, second, high, low, rfl, one, two, value⟩

theorem escaped?_escape (byte : UInt8) (rest : List Char) :
    escaped? (escape byte ++ rest) = some (byte, rest) := by
  have each : ∀ number < 256,
      escaped? (escape (UInt8.ofNat number)) = some (UInt8.ofNat number, []) := by
    decide +kernel
  have own := each byte.toNat byte.toNat_lt
  rw [UInt8.ofNat_toNat] at own
  exact escaped?_append own rest

theorem hasEscape_append_of_not_mem (clean : '%' ∉ letters) (more : List Char) :
    hasEscape (letters ++ more) = hasEscape more := by
  induction letters with
  | nil => rfl
  | cons c rest induction =>
      have none : escaped? (c :: (rest ++ more)) = none := by
        cases starts : escaped? (c :: (rest ++ more)) with
        | none => rfl
        | some found =>
            obtain ⟨first, second, high, low, same, -⟩ := escaped?_eq_some_iff.mp starts
            exact absurd (List.mem_cons.mpr (.inl (List.cons.inj same).1.symm)) clean
      rw [List.cons_append, hasEscape, none, induction fun member =>
        clean (List.mem_cons_of_mem _ member)]
      rfl

/-- A slash is no digit, so that no escape reaches from one segment into the next. -/
theorem hasEscape_append_slash (literal : hasEscape letters = false) (more : List Char) :
    hasEscape (letters ++ '/' :: more) = hasEscape ('/' :: more) := by
  induction letters with
  | nil => rfl
  | cons c rest induction =>
      obtain ⟨own, behind⟩ := hasEscape_cons.mp literal
      have none : escaped? (c :: (rest ++ '/' :: more)) = none := by
        cases starts : escaped? (c :: (rest ++ '/' :: more)) with
        | none => rfl
        | some found =>
            obtain ⟨first, second, high, low, same, one, two, -⟩ := escaped?_eq_some_iff.mp starts
            obtain ⟨rfl, tail⟩ := List.cons.inj same
            cases rest with
            | nil =>
                obtain ⟨rfl, -⟩ := List.cons.inj tail
                contradiction
            | cons third others =>
                obtain ⟨rfl, next⟩ := List.cons.inj tail
                cases others with
                | nil =>
                    obtain ⟨rfl, -⟩ := List.cons.inj next
                    contradiction
                | cons fourth others =>
                    obtain ⟨rfl, -⟩ := List.cons.inj next
                    simp [escaped?, one, two] at own
      rw [List.cons_append, hasEscape, none, induction behind]
      rfl

/-- What an escape is made of may stand in a path, and is no slash. -/
theorem keptInPath_escape (byte : UInt8) :
    ∀ c ∈ escape byte, keptInPath c = true ∧ (c == '/') = false := by
  have each : ∀ number < 256, (escape (UInt8.ofNat number)).all
      (fun c => keptInPath c && !(c == '/')) = true := by
    decide +kernel
  have own := each byte.toNat byte.toNat_lt
  rw [UInt8.ofNat_toNat] at own
  simpa using own

theorem encodeWhere_of_kept (own : kept c = true) (rest : List Char) :
    encodeWhere kept (c :: rest) = c :: encodeWhere kept rest := by
  rw [encodeWhere, List.flatMap_cons, if_pos own]
  rfl

theorem encodeWhere_of_not_kept (other : kept c = false) (rest : List Char) :
    encodeWhere kept (c :: rest) =
      (String.utf8EncodeChar c).flatMap escape ++ encodeWhere kept rest := by
  have escapes : ¬ kept c = true := by simp [other]
  rw [encodeWhere, List.flatMap_cons, if_neg escapes]
  rfl

/-- Whatever is escaped begins with a percent sign. -/
theorem head?_encodeWhere_of_not_kept (other : kept c = false) (rest : List Char) :
    (encodeWhere kept (c :: rest)).head? = some '%' := by
  rw [encodeWhere_of_not_kept other]
  cases bytes : String.utf8EncodeChar c with
  | nil => exact absurd bytes String.utf8EncodeChar_ne_nil
  | cons byte others => rfl

theorem encodeWhere_eq_self {letters : List Char} (all : ∀ c ∈ letters, kept c = true) :
    encodeWhere kept letters = letters := by
  induction letters with
  | nil => rfl
  | cons c rest induction =>
      rw [encodeWhere_of_kept (all c List.mem_cons_self),
        induction fun other member => all other (List.mem_cons_of_mem _ member)]

theorem encodeWhere_eq_self_of_not_mem (clean : '%' ∉ encodeWhere kept letters) :
    encodeWhere kept letters = letters := by
  induction letters with
  | nil => rfl
  | cons c rest induction =>
      cases own : kept c with
      | true =>
          rw [encodeWhere_of_kept own] at clean ⊢
          rw [induction fun member => clean (List.mem_cons_of_mem _ member)]
      | false => exact absurd (List.mem_of_mem_head? (head?_encodeWhere_of_not_kept own rest)) clean

theorem keptInPath_of_mem_encodeWhere (member : c ∈ encodeWhere keptInPath letters) :
    keptInPath c = true := by
  obtain ⟨letter, -, inside⟩ := List.mem_flatMap.mp member
  split at inside
  · rename_i own
    rwa [List.mem_singleton.mp inside]
  · obtain ⟨byte, -, here⟩ := List.mem_flatMap.mp inside
    exact (keptInPath_escape byte c here).1

/-- No escape comes about by escaping what stands behind a character. -/
theorem escaped?_encodeWhere (literal : escaped? (c :: rest) = none) :
    escaped? (c :: encodeWhere kept rest) = none := by
  -- both digits of an escape would stand in the text itself: a percent sign is none
  have digit : ∀ {c rest first behind value}, encodeWhere kept (c :: rest) = first :: behind →
      Json.hexValue? first = some value → kept c = true := by
    intro c rest first behind value same hex
    cases own : kept c with
    | true => rfl
    | false =>
        have head := head?_encodeWhere_of_not_kept own rest
        rw [same, List.head?_cons] at head
        rw [Option.some.inj head] at hex
        contradiction
  cases starts : escaped? (c :: encodeWhere kept rest) with
  | none => rfl
  | some found =>
      obtain ⟨byte, behind⟩ := found
      obtain ⟨first, second, high, low, same, one, two, value⟩ := escaped?_eq_some_iff.mp starts
      obtain ⟨rfl, tail⟩ := List.cons.inj same
      cases rest with
      | nil => contradiction
      | cons third others =>
          have own := digit tail one
          rw [encodeWhere_of_kept own] at tail
          obtain ⟨rfl, next⟩ := List.cons.inj tail
          cases others with
          | nil => contradiction
          | cons fourth others =>
              have further := digit next two
              rw [encodeWhere_of_kept further] at next
              obtain ⟨rfl, -⟩ := List.cons.inj next
              have found : escaped? ('%' :: third :: fourth :: others) = some (byte, others) :=
                escaped?_eq_some_iff.mpr ⟨third, fourth, high, low, rfl, one, two, value⟩
              rw [literal] at found
              contradiction

theorem bytesWith_of_escaped {letters : List Char} (starts : escaped? letters = some (byte, rest))
    (fuel : Nat) : bytesWith (fuel + 1) letters = byte :: bytesWith fuel rest := by
  cases letters with
  | nil => simp [escaped?] at starts
  | cons c others => simp only [bytesWith, starts]

theorem bytesWith_escapes (list : List UInt8) (rest : List Char)
    (enough : (list.flatMap escape ++ rest).length ≤ fuel) :
    ∃ left, rest.length ≤ left ∧
      bytesWith fuel (list.flatMap escape ++ rest) = list ++ bytesWith left rest := by
  induction list generalizing fuel with
  | nil => exact ⟨fuel, enough, rfl⟩
  | cons byte others induction =>
      have filled : 1 ≤ (escape byte).length := Nat.le_add_left 1 _
      rw [List.flatMap_cons, List.append_assoc] at enough ⊢
      rw [List.length_append] at enough
      cases fuel with
      | zero => omega
      | succ fuel =>
          have further : (others.flatMap escape ++ rest).length ≤ fuel := by omega
          obtain ⟨left, long, read⟩ := induction further
          refine ⟨left, long, ?_⟩
          rw [bytesWith_of_escaped (escaped?_escape byte _), read, List.cons_append]

/-- The bytes that an escaped text stands for are those of the text itself. -/
theorem bytesWith_encodeWhere (literal : hasEscape letters = false)
    (enough : (encodeWhere kept letters).length ≤ fuel) :
    bytesWith fuel (encodeWhere kept letters) = Utf8.encode letters := by
  induction letters generalizing fuel with
  | nil => cases fuel <;> rfl
  | cons c rest induction =>
      obtain ⟨none, behind⟩ := hasEscape_cons.mp literal
      rw [Utf8.encode, List.flatMap_cons]
      cases own : kept c with
      | true =>
          rw [encodeWhere_of_kept own] at enough ⊢
          cases fuel with
          | zero => simp at enough
          | succ fuel =>
              have further : (encodeWhere kept rest).length ≤ fuel := by simpa using enough
              simp only [bytesWith, escaped?_encodeWhere none]
              exact congrArg _ (induction behind further)
      | false =>
          rw [encodeWhere_of_not_kept own] at enough ⊢
          obtain ⟨left, long, read⟩ := bytesWith_escapes _ _ enough
          rw [read]
          exact congrArg _ (induction behind long)

theorem decode_encodeWhere (literal : hasEscape letters = false) :
    decode (encodeWhere kept letters) = letters := by
  rw [decode, bytes, bytesWith_encodeWhere literal (Nat.le_refl _), Utf8.decode_encode]

theorem pieces_encodeWhere (letters : List Char) :
    Text.pieces (· == '/') (encodeWhere keptInPath letters) =
      (Text.pieces (· == '/') letters).map (encodeWhere keptInPath) := by
  induction letters with
  | nil => rfl
  | cons c rest induction =>
      cases parts : Text.pieces (· == '/') rest with
      | nil => exact absurd parts (Text.pieces_ne_nil _ rest)
      | cons first others =>
          rw [parts, List.map_cons] at induction
          by_cases slash : c = '/'
          · subst slash
            rw [encodeWhere_of_kept (by decide)]
            simp only [Text.pieces, beq_self_eq_true, if_true, induction, parts, List.map_cons]
            rfl
          · have goes : (c == '/') = false := beq_false_of_ne slash
            have whole : Text.pieces (· == '/') (c :: rest) = (c :: first) :: others := by
              simp only [Text.pieces, goes, parts, Bool.false_eq_true, if_false]
            rw [whole, List.map_cons]
            cases own : keptInPath c with
            | true =>
                rw [encodeWhere_of_kept own, encodeWhere_of_kept own, Text.pieces]
                simp only [goes, induction, Bool.false_eq_true, if_false]
            | false =>
                rw [encodeWhere_of_not_kept own, encodeWhere_of_not_kept own]
                refine Text.pieces_append_of_forall_not (fun letter member => ?_) induction
                obtain ⟨byte, -, here⟩ := List.mem_flatMap.mp member
                exact (keptInPath_escape byte letter here).2

end CyberRange.Url
