import CyberRange.Client.Call
import CyberRange.Proofs.Http.Literal
import CyberRange.Proofs.Service.Routing

namespace CyberRange

/-! Requests to literal references: the path that a server reads is the one that the
client wrote. -/

/-- A literal reference that starts with one slash, and that a request is sent to. -/
structure IsLiteralReference (reference : String) : Prop where
  letters : ∃ letters, reference = String.ofList ('/' :: letters) ∧
    Url.IsLiteral ('/' :: letters) ∧ letters.head? ≠ some '/'
  noControl : reference.toList.any Url.isControl = false
  short : reference.length ≤ Url.lengthLimit

/-- An id that is spelled as one segment of a path.  It may hold letters and signs of any
kind, escaped or not on the line, as long as they are not read as something else. -/
structure IsLiteralId (id : String) : Prop extends Resource.IsSegment id where
  noQuery : '?' ∉ id.toList
  noFragment : '#' ∉ id.toList
  noControl : id.toList.any Url.isControl = false
  noEscape : Url.hasEscape id.toList = false
  noStep : id ≠ "."
  noReturn : id ≠ ".."
  short : ("/sessions/" ++ id ++ "/execute").length ≤ Url.lengthLimit

/-- An id as a source of random identifiers gives it: 36 letters, digits and hyphens. -/
structure IsUuid (id : String) : Prop where
  length : id.length = 36
  letters : ∀ c ∈ id.toList, c.isAlphanum = true ∨ c = '-'

/-- A client whose base address is the root of a server, and which sends a request at
least once. -/
structure Policy.ReachesRoot (policy : Policy) : Prop where
  root : policy.base.target = ['/']
  tries : 1 ≤ policy.attempts

variable {policy : Policy} {reference id : String}

theorem IsUuid.not_mem (uuid : IsUuid id) {c : Char} (other : c.isAlphanum = false)
    (noHyphen : c ≠ '-') : c ∉ id.toList := by
  intro member
  rcases uuid.letters c member with alphanumeric | hyphen
  · exact Bool.false_ne_true (other.symm.trans alphanumeric)
  · exact noHyphen hyphen

theorem IsUuid.isSegment (uuid : IsUuid id) : Resource.IsSegment id where
  filled := by
    rintro rfl
    exact absurd uuid.length (by decide)
  clean := uuid.not_mem (by decide) (by decide)

theorem IsUuid.noControl (uuid : IsUuid id) : id.toList.any Url.isControl = false := by
  have each : ∀ code < 0x80, Url.isControl (Char.ofNat code) = true →
      (Char.ofNat code).isAlphanum = false ∧ Char.ofNat code ≠ '-' := by
    decide +kernel
  rw [List.any_eq_false]
  intro c member control
  have small : c.toNat < 0x80 := by
    simp only [Url.isControl, Bool.or_eq_true, decide_eq_true_eq] at control
    omega
  have outside := each c.toNat small
  rw [Char.ofNat_toNat] at outside
  obtain ⟨other, noHyphen⟩ := outside control
  exact uuid.not_mem other noHyphen member

theorem IsUuid.isLiteralId (uuid : IsUuid id) : IsLiteralId id where
  toIsSegment := uuid.isSegment
  noQuery := uuid.not_mem (by decide) (by decide)
  noFragment := uuid.not_mem (by decide) (by decide)
  noControl := uuid.noControl
  noEscape := by
    have clean : '%' ∉ id.toList := uuid.not_mem (by decide) (by decide)
    have none := Url.hasEscape_append_of_not_mem clean []
    rwa [List.append_nil] at none
  noStep := by
    rintro rfl
    exact absurd uuid.length (by decide)
  noReturn := by
    rintro rfl
    exact absurd uuid.length (by decide)
  short := by
    have front : "/sessions/".length = 10 := by decide
    have back : "/execute".length = 8 := by decide
    rw [String.length_append, String.length_append, uuid.length, front, back, Url.lengthLimit]
    omega

/-- What may stand behind the id of a session in a path. -/
def sessionTails : List String :=
  ["", "/execute", "/history", "/reset"]

/-- Behind an id there is nothing, or one more segment that leads nowhere else. -/
theorem tail_cases {tail : String} (known : tail ∈ sessionTails) :
    tail.toList = [] ∨ ∃ name, tail.toList = '/' :: name ∧
      ∀ piece ∈ Text.pieces (· == '/') name, '.' ∉ piece := by
  simp only [sessionTails, List.mem_cons, List.not_mem_nil, or_false] at known
  rcases known with rfl | rfl | rfl | rfl
  · exact .inl rfl
  · exact .inr ⟨"execute".toList, by decide, by decide⟩
  · exact .inr ⟨"history".toList, by decide, by decide⟩
  · exact .inr ⟨"reset".toList, by decide, by decide⟩

theorem clean_of_tail : ∀ tail ∈ sessionTails,
    '?' ∉ tail.toList ∧ '#' ∉ tail.toList ∧ tail.toList.any Url.isControl = false ∧
      Url.hasEscape tail.toList = false ∧ tail.length ≤ 8 := by
  decide

/-- The segments below the collection are those of the server, or the id. -/
theorem eq_id_of_mem_pieces {tail : String} {piece : List Char} (clean : '/' ∉ id.toList)
    (known : tail ∈ sessionTails)
    (member : piece ∈ Text.pieces (· == '/') ("/sessions/".toList ++ (id.toList ++ tail.toList))) :
    piece = id.toList ∨ '.' ∉ piece := by
  have front : "/sessions/".toList = "/sessions".toList ++ ['/'] := by decide
  have first : ∀ piece ∈ Text.pieces (· == '/') "/sessions".toList, '.' ∉ piece := by decide
  have own : Text.pieces (· == '/') id.toList = [id.toList] := by
    refine Text.pieces_of_forall_not fun c inside => beq_false_of_ne ?_
    rintro rfl
    exact clean inside
  rw [front, List.append_assoc, List.singleton_append,
    Text.pieces_append_separator (by decide), List.mem_append] at member
  rcases member with before | behind
  · exact .inr (first piece before)
  · rcases tail_cases known with bare | ⟨name, split, plain⟩
    · rw [bare, List.append_nil, own, List.mem_singleton] at behind
      exact .inl behind
    · rw [split, Text.pieces_append_separator (by decide), own, List.mem_append,
        List.mem_singleton] at behind
      rcases behind with same | after
      · exact .inl same
      · exact .inr (plain piece after)

theorem isLiteral_below {tail : String} (literal : IsLiteralId id) (known : tail ∈ sessionTails) :
    Url.IsLiteral ("/sessions/".toList ++ (id.toList ++ tail.toList)) := by
  obtain ⟨noQuery, noFragment, -, noEscape, -⟩ := clean_of_tail tail known
  have query : '?' ∉ "/sessions/".toList := by decide
  have fragment : '#' ∉ "/sessions/".toList := by decide
  refine ⟨?_, ?_, ?_, ?_, ?_⟩
  · simp only [List.mem_append, query, literal.noQuery, noQuery, or_self, not_false_iff]
  · simp only [List.mem_append, fragment, literal.noFragment, noFragment, or_self, not_false_iff]
  · rw [Url.hasEscape_append_of_not_mem (by decide)]
    rcases tail_cases known with bare | ⟨name, split, -⟩
    · rw [bare, List.append_nil, literal.noEscape]
    · rw [split, Url.hasEscape_append_slash literal.noEscape, ← split, noEscape]
  · intro member
    rcases eq_id_of_mem_pieces literal.clean known member with same | plain
    · exact literal.noStep (String.toList_inj.mp same.symm)
    · exact plain (by decide)
  · intro member
    rcases eq_id_of_mem_pieces literal.clean known member with same | plain
    · exact literal.noReturn (String.toList_inj.mp same.symm)
    · exact plain (by decide)

theorem isLiteralReference_sessions : IsLiteralReference "/sessions" where
  letters := ⟨"sessions".toList, by decide, ⟨by decide, by decide, by decide, by decide, by decide⟩,
    by decide⟩
  noControl := by decide
  short := by decide

theorem isLiteralReference_below {tail : String} (literal : IsLiteralId id)
    (known : tail ∈ sessionTails) : IsLiteralReference ("/sessions/" ++ id ++ tail) where
  letters := by
    have front : "/sessions/".toList = '/' :: 's' :: "essions/".toList := by decide
    have spelled := isLiteral_below literal known
    rw [front] at spelled
    refine ⟨'s' :: "essions/".toList ++ (id.toList ++ tail.toList), ?_, spelled, ?_⟩
    · rw [Resource.below_eq, front]
      rfl
    · rw [List.cons_append, List.head?_cons]
      decide
  noControl := by
    obtain ⟨-, -, behind, -⟩ := clean_of_tail tail known
    have before : "/sessions/".toList.any Url.isControl = false := by decide
    rw [Resource.below_eq, String.toList_ofList, List.any_append, List.any_append, before,
      literal.noControl, behind]
    rfl
  short := by
    obtain ⟨-, -, -, -, size⟩ := clean_of_tail tail known
    have longest : "/execute".length = 8 := by decide
    have short := literal.short
    rw [String.length_append] at short ⊢
    omega

theorem fault?_of_literal (literal : IsLiteralReference reference) :
    Url.fault? reference = none := by
  have clean : reference.toList.find? Url.isControl = none := by
    rw [List.find?_eq_none]
    exact List.any_eq_false.mp literal.noControl
  rw [Url.fault?, if_neg (Nat.not_lt.mpr literal.short), clean]
  rfl

theorem path_address (reaches : policy.base.target = ['/'])
    (literal : IsLiteralReference reference) (parameters : List (String × Json)) :
    (policy.address reference parameters).path = reference := by
  obtain ⟨⟨letters, rfl, spelled, begins⟩, -, -⟩ := literal
  have joined := Url.join_of_literal reaches spelled begins
  have raw : (policy.address (String.ofList ('/' :: letters)) parameters).rawPath =
      String.ofList (Url.encodeWhere Url.keptInPath ('/' :: letters)) := by
    simp only [Policy.address, joined]
    split <;> rfl
  exact Url.path_of_literal spelled raw

theorem queryItems_address_nil (reaches : policy.base.target = ['/'])
    (literal : IsLiteralReference reference) : (policy.address reference []).queryItems = [] := by
  obtain ⟨⟨letters, rfl, spelled, begins⟩, -, -⟩ := literal
  have joined := Url.join_of_literal reaches spelled begins
  have bare : Query.ofParameters [] = none := rfl
  simp only [Policy.address, joined, bare, Url.queryItems]

theorem queryItems_address_direction (policy : Policy) (reference : String)
    (direction : Direction) :
    (policy.address reference [("direction", .text direction.name)]).queryItems =
      [("direction", direction.name)] := by
  have given : Query.ofParameters [("direction", .text direction.name)] =
      some [("direction", direction.name)] := by
    cases direction <;> rfl
  have read : Url.readItems (Url.writeItems [("direction", direction.name)]) =
      [("direction", direction.name)] := by
    cases direction <;> decide
  simp only [Policy.address, given, Url.withItems, Option.map_some, Url.queryItems,
    String.toList_ofList, read]

/-- What a request carries for a document; nothing for a null. -/
def contentFor : Json → Http.Content
  | .null => .empty
  | document => .document document

/-- A request that is sent goes to the address it was meant for, by its method. -/
theorem eq_of_request {method : String} {parameters : List (String × Json)} {document : Json}
    {request : Http.Request}
    (sent : policy.request method reference parameters document = .ok request) :
    request.method = method.toUpper ∧ request.url = policy.address reference parameters := by
  unfold Policy.request at sent
  split at sent
  · contradiction
  · split at sent
    · contradiction
    · obtain rfl := Except.ok.inj sent
      exact ⟨rfl, rfl⟩

theorem request_of_literal {document : Json} (literal : IsLiteralReference reference)
    (writable : document.hasUnwritable = false) (policy : Policy) (method : String)
    (parameters : List (String × Json)) :
    policy.request method reference parameters document =
      .ok (.create method (policy.address reference parameters) (contentFor document)) := by
  simp only [Policy.request, fault?_of_literal literal, writable, Bool.false_eq_true, if_false]
  cases document <;> rfl

end CyberRange
