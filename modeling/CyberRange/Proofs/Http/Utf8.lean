import CyberRange.Http.Utf8

namespace CyberRange.Utf8

/-! Text that was written as bytes is read back from them: the machine comes to rest
between two characters with each character it has been given the bytes of. -/

variable {byte missing lowest highest bits : Nat} {c : Char}

theorem step_one (ascii : c.toNat < 0x80) : step .between c.toNat = ([c], .between) := by
  rw [step, first, if_pos ascii, Char.ofNat_toNat]

theorem step_first_of_two : ∀ byte ≤ 0xDF, 0xC2 ≤ byte →
    step .between byte = ([], .inside 1 0x80 0xBF (byte % 0x20)) := by
  decide +kernel

/-- Behind 0xE0 the next byte begins later, behind 0xED it ends earlier. -/
theorem step_first_of_three : ∀ byte ≤ 0xEF, 0xE0 ≤ byte →
    step .between byte = ([], .inside 2 (if byte = 0xE0 then 0xA0 else 0x80)
      (if byte = 0xED then 0x9F else 0xBF) (byte % 0x10)) := by
  decide +kernel

/-- Behind 0xF0 the next byte begins later, behind 0xF4 it ends earlier. -/
theorem step_first_of_four : ∀ byte ≤ 0xF4, 0xF0 ≤ byte →
    step .between byte = ([], .inside 3 (if byte = 0xF0 then 0x90 else 0x80)
      (if byte = 0xF4 then 0x8F else 0xBF) (byte % 8)) := by
  decide +kernel

theorem step_more (above : lowest ≤ byte) (below : byte ≤ highest) :
    step (.inside (missing + 2) lowest highest bits) byte =
      ([], .inside (missing + 1) 0x80 0xBF (bits * 0x40 + byte % 0x40)) := by
  simp [step, above, below]

theorem step_last (above : lowest ≤ byte) (below : byte ≤ highest)
    (whole : bits * 0x40 + byte % 0x40 = c.toNat) :
    step (.inside 1 lowest highest bits) byte = ([c], .between) := by
  simp [step, above, below, whole]

/-- A byte that is given as a number moves the machine on. -/
theorem decodeFrom_of_step {state next : State} {letters : List Char} (small : byte < 256)
    (moved : step state byte = (letters, next)) (rest : List UInt8) :
    decodeFrom state (UInt8.ofNat byte :: rest) = letters ++ decodeFrom next rest := by
  have number : (UInt8.ofNat byte).toNat = byte := by
    rw [UInt8.toNat_ofNat', Nat.mod_eq_of_lt small]
  cases state <;> simp only [decodeFrom, number, moved]

/-- The bytes of one character give that character.  The machine puts together the
bits that the code was taken apart into. -/
theorem decodeFrom_encodeChar (c : Char) (rest : List UInt8) :
    decodeFrom .between (String.utf8EncodeChar c ++ rest) = c :: decodeFrom .between rest := by
  have code : c.val.toNat = c.toNat := rfl
  have valid : c.toNat < 0xD800 ∨ (0xDFFF < c.toNat ∧ c.toNat < 0x110000) := c.valid
  rw [String.utf8EncodeChar, code]
  -- one case for each number of bytes; what the machine has read is the code by `omega`
  by_cases one : c.toNat ≤ 0x7F
  · rw [if_pos one]
    exact decodeFrom_of_step (by omega) (step_one (by omega)) rest
  rw [if_neg one]
  by_cases two : c.toNat ≤ 0x7FF
  · rw [if_pos two, List.cons_append, List.cons_append, List.nil_append,
      decodeFrom_of_step (by omega) (step_first_of_two _ (by omega) (by omega)),
      decodeFrom_of_step (by omega) (step_last (c := c) (by omega) (by omega) (by omega))]
    rfl
  rw [if_neg two]
  by_cases three : c.toNat ≤ 0xFFFF
  · rw [if_pos three, List.cons_append, List.cons_append, List.cons_append, List.nil_append,
      decodeFrom_of_step (by omega) (step_first_of_three _ (by omega) (by omega)),
      decodeFrom_of_step (by omega) (step_more (by split <;> omega) (by split <;> omega)),
      decodeFrom_of_step (by omega) (step_last (c := c) (by omega) (by omega) (by omega))]
    rfl
  · rw [if_neg three, List.cons_append, List.cons_append, List.cons_append, List.cons_append,
      List.nil_append,
      decodeFrom_of_step (by omega) (step_first_of_four _ (by omega) (by omega)),
      decodeFrom_of_step (by omega) (step_more (by split <;> omega) (by split <;> omega)),
      decodeFrom_of_step (by omega) (step_more (by omega) (by omega)),
      decodeFrom_of_step (by omega) (step_last (c := c) (by omega) (by omega) (by omega))]
    rfl

theorem decode_encode (letters : List Char) : decode (encode letters) = letters := by
  induction letters with
  | nil => rfl
  | cons c rest induction =>
      rw [encode, List.flatMap_cons, decode, decodeFrom_encodeChar]
      exact congrArg (c :: ·) induction

end CyberRange.Utf8
