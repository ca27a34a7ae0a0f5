import CyberRange.Proofs.Http.Escapes

namespace CyberRange.Url

/-! References that stand for themselves: nothing is cut off them, no percent sign in
them starts an escape and no segment leads back.  A server reads such a path as it was
written, though not every character of it goes over the line as it is. -/

variable {letters : List Char} {base url : Url}

structure IsLiteral (letters : List Char) : Prop where
  noQuery : '?' ∉ letters
  noFragment : '#' ∉ letters
  noEscape : hasEscape letters = false
  noStep : ['.'] ∉ Text.pieces (· == '/') letters
  noReturn : ['.', '.'] ∉ Text.pieces (· == '/') letters

/-- Escaping makes no segment that leads anywhere else. -/
theorem mem_pieces_encodeWhere {piece : List Char} (plain : '%' ∉ piece)
    (member : piece ∈ Text.pieces (· == '/') (encodeWhere keptInPath letters)) :
    piece ∈ Text.pieces (· == '/') letters := by
  rw [pieces_encodeWhere] at member
  obtain ⟨own, here, rfl⟩ := List.mem_map.mp member
  rwa [encodeWhere_eq_self_of_not_mem plain]

theorem removeDots_encodeWhere (literal : IsLiteral letters) :
    removeDots (encodeWhere keptInPath letters) = encodeWhere keptInPath letters := by
  have stays : ¬ ((Text.pieces (· == '/') (encodeWhere keptInPath letters)).contains ['.'] ||
      (Text.pieces (· == '/') (encodeWhere keptInPath letters)).contains ['.', '.']) = true := by
    rw [Bool.or_eq_true, List.contains_iff_mem, List.contains_iff_mem]
    rintro (here | up)
    · exact literal.noStep (mem_pieces_encodeWhere (by decide) here)
    · exact literal.noReturn (mem_pieces_encodeWhere (by decide) up)
  rw [removeDots, if_neg stays]

/-- A literal reference is a path and nothing else. -/
theorem parts_of_literal (literal : IsLiteral ('/' :: letters)) (begins : letters.head? ≠ some '/') :
    Parts.ofReference (String.ofList ('/' :: letters)) =
      { scheme := [], authority := [], path := '/' :: letters, query := none } := by
  have noFragment : ∀ c ∈ '/' :: letters, (c != '#') = true := by
    intro c member
    rw [bne_iff_ne]
    rintro rfl
    exact literal.noFragment member
  -- a scheme would hold the slash the reference begins with
  have scheme : cutScheme ('/' :: letters) = ([], '/' :: letters) := by
    have slash : ('/' :: letters).takeWhile (· != ':') = '/' :: letters.takeWhile (· != ':') :=
      List.takeWhile_cons_of_pos (by decide)
    have outside : isSchemeChar '/' = false := by decide
    cases rest : ('/' :: letters).dropWhile (· != ':') <;>
      simp [cutScheme, Text.cutFirst, rest, slash, outside]
  have authority : cutAuthority ('/' :: letters) = ([], '/' :: letters) := by
    cases letters with
    | nil => rfl
    | cons c rest =>
        rw [cutAuthority]
        rintro more same
        have slash : c = '/' := (List.cons.inj (List.cons.inj same).2).1
        exact begins (by rw [slash]; rfl)
  have query : Text.cutFirst '?' ('/' :: letters) = ('/' :: letters, none) :=
    Text.cutFirst_of_not_mem literal.noQuery
  rw [Parts.ofReference, String.toList_ofList, List.takeWhile_eq_self_iff.mpr noFragment, scheme]
  simp only [authority, query]

/-- A text that does not begin with a slash does not begin with one once it is escaped. -/
theorem dropWhile_encodeWhere (begins : letters.head? ≠ some '/') :
    (encodeWhere keptInPath letters).dropWhile (· == '/') = encodeWhere keptInPath letters := by
  have other : (encodeWhere keptInPath letters).head? ≠ some '/' := by
    cases letters with
    | nil => exact begins
    | cons c rest =>
        cases own : keptInPath c with
        | true => rwa [encodeWhere_of_kept own]
        | false =>
            rw [head?_encodeWhere_of_not_kept own]
            decide
  cases whole : encodeWhere keptInPath letters with
  | nil => rfl
  | cons first others =>
      rw [whole] at other
      exact List.dropWhile_cons_of_neg fun slash => other (by rw [eq_of_beq slash]; rfl)

/-- Behind a base without a path, a literal reference is the path of the locator. -/
theorem join_of_literal (root : base.target = ['/']) (literal : IsLiteral ('/' :: letters))
    (begins : letters.head? ≠ some '/') :
    base.join (String.ofList ('/' :: letters)) =
      { origin := base.origin,
        rawPath := String.ofList (encodeWhere keptInPath ('/' :: letters)),
        rawQuery := none } := by
  have slash : encodeWhere keptInPath ('/' :: letters) = '/' :: encodeWhere keptInPath letters :=
    encodeWhere_of_kept (by decide) letters
  have bare : ('/' :: encodeWhere keptInPath letters).dropWhile (· == '/') =
      encodeWhere keptInPath letters := by
    rw [List.dropWhile_cons_of_pos (by decide), dropWhile_encodeWhere begins]
  have query : Text.cutFirst '?' ('/' :: encodeWhere keptInPath letters) =
      ('/' :: encodeWhere keptInPath letters, none) := by
    refine Text.cutFirst_of_not_mem fun member => ?_
    rw [← slash] at member
    exact absurd (keptInPath_of_mem_encodeWhere member) (by decide)
  have again : encodeWhere keptInPath ('/' :: encodeWhere keptInPath letters) =
      '/' :: encodeWhere keptInPath letters := by
    rw [← slash]
    exact encodeWhere_eq_self fun c => keptInPath_of_mem_encodeWhere
  have stays : removeDots ('/' :: encodeWhere keptInPath letters) =
      '/' :: encodeWhere keptInPath letters := by
    rw [← slash]
    exact removeDots_encodeWhere literal
  simp only [join, parts_of_literal literal begins, Parts.isAbsolute, List.isEmpty_nil,
    Bool.not_true, Bool.and_self, Bool.false_eq_true, if_false, Parts.relativeTarget, if_true,
    slash, List.isEmpty_cons, List.append_nil, bare, root, List.singleton_append, query, assemble,
    stays, again, Option.map_none]

theorem path_of_literal (literal : IsLiteral ('/' :: letters))
    (raw : url.rawPath = String.ofList (encodeWhere keptInPath ('/' :: letters))) :
    url.path = String.ofList ('/' :: letters) := by
  have filled : String.ofList (encodeWhere keptInPath ('/' :: letters)) ≠ "" := by
    intro empty
    have none := congrArg String.toList empty
    rw [String.toList_ofList, encodeWhere_of_kept (by decide)] at none
    exact List.cons_ne_nil _ _ none
  rw [path, raw, if_neg filled, String.toList_ofList, decode_encodeWhere literal.noEscape]

end CyberRange.Url
