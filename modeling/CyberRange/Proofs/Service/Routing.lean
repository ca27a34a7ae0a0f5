import CyberRange.Service.Route

namespace CyberRange.Resource

/-! What the paths below the collection of sessions name. -/

variable {id : String} {tail : List Char}

structure IsSegment (id : String) : Prop where
  filled : id ≠ ""
  clean : '/' ∉ id.toList

/-- Everything below the collection is looked at as a member of it. -/
theorem ofPath_member (rest : List Char) :
    ofPath (String.ofList ("/sessions/".toList ++ rest)) = ofMember rest := by
  have letters : "/sessions/".toList =
      ['/', 's', 'e', 's', 's', 'i', 'o', 'n', 's', '/'] := by decide
  have length : "/sessions/".length = 10 := by decide
  simp only [ofPath, String.toList_ofList, letters, length]
  simp [endsAs]

theorem takeWhile_segment (segment : IsSegment id) (ends : tail.head? = none ∨ tail.head? = some '/') :
    (id.toList ++ tail).takeWhile (· != '/') = id.toList ∧
      (id.toList ++ tail).dropWhile (· != '/') = tail := by
  have passes : ∀ c ∈ id.toList, (c != '/') = true := by
    intro c member
    rw [bne_iff_ne]
    rintro rfl
    exact segment.clean member
  rw [List.takeWhile_append_of_pos passes, List.dropWhile_append_of_pos passes]
  cases tail with
  | nil => simp
  | cons c rest =>
      have slash : c = '/' := by simpa using ends
      subst slash
      simp

/-- The resource of a member of the collection goes by what is behind its id. -/
theorem ofMember_segment (segment : IsSegment id)
    (ends : tail.head? = none ∨ tail.head? = some '/') :
    ofMember (id.toList ++ tail) =
      if tail.isEmpty then some (.session id)
      else if endsAs "/execute" tail then some (.execution id)
      else if endsAs "/history" tail then some (.history id)
      else if endsAs "/reset" tail then some (.renewal id)
      else none := by
  obtain ⟨front, back⟩ := takeWhile_segment segment ends
  rw [ofMember, front, back, String.ofList_toList]
  simp only [if_neg segment.filled]

theorem below_eq (id tail : String) :
    "/sessions/" ++ id ++ tail =
      String.ofList ("/sessions/".toList ++ (id.toList ++ tail.toList)) := by
  rw [← String.toList_inj, String.toList_ofList, String.toList_append, String.toList_append,
    List.append_assoc]

/-- The resource at a path below the collection. -/
theorem ofPath_below {tail : String} (segment : IsSegment id)
    (ends : tail.toList.head? = none ∨ tail.toList.head? = some '/') :
    ofPath ("/sessions/" ++ id ++ tail) =
      if tail.toList.isEmpty then some (.session id)
      else if endsAs "/execute" tail.toList then some (.execution id)
      else if endsAs "/history" tail.toList then some (.history id)
      else if endsAs "/reset" tail.toList then some (.renewal id)
      else none := by
  rw [below_eq, ofPath_member, ofMember_segment segment ends]

theorem ofPath_session (segment : IsSegment id) :
    ofPath ("/sessions/" ++ id) = some (.session id) := by
  have bare : ofPath ("/sessions/" ++ id ++ "") = some (.session id) :=
    ofPath_below segment (by decide)
  rwa [String.append_empty] at bare

theorem ofPath_execution (segment : IsSegment id) :
    ofPath ("/sessions/" ++ id ++ "/execute") = some (.execution id) :=
  ofPath_below segment (by decide)

theorem ofPath_history (segment : IsSegment id) :
    ofPath ("/sessions/" ++ id ++ "/history") = some (.history id) :=
  ofPath_below segment (by decide)

theorem ofPath_renewal (segment : IsSegment id) :
    ofPath ("/sessions/" ++ id ++ "/reset") = some (.renewal id) :=
  ofPath_below segment (by decide)

/-- What a resource is asked for without any wish to change it. -/
theorem task_of_get {resource : Resource} {task : Task}
    (serves : resource.endpoint? "GET" = some (.task task)) :
    (resource = .sessions ∧ task = .list) ∨
      (∃ id, resource = .session id ∧ task = .describe id) ∨
      ∃ id, resource = .history id ∧ task = .recallLine id := by
  cases resource with
  | root | health | targets | execution id | renewal id => simp [endpoint?] at serves
  | sessions => exact .inl ⟨rfl, by simpa [endpoint?, eq_comm] using serves⟩
  | session id => exact .inr (.inl ⟨id, rfl, by simpa [endpoint?, eq_comm] using serves⟩)
  | history id => exact .inr (.inr ⟨id, rfl, by simpa [endpoint?, eq_comm] using serves⟩)

end CyberRange.Resource

namespace CyberRange.Route

theorem ofRequest_eq_found_iff {method path : String} {endpoint : Endpoint} :
    ofRequest method path = .found endpoint ↔
      ∃ resource, Resource.ofPath path = some resource ∧
        resource.endpoint? method = some endpoint := by
  cases found : Resource.ofPath path with
  | none =>
      simp only [ofRequest, found]
      split <;> simp
  | some resource => cases serves : resource.endpoint? method <;> simp [ofRequest, found, serves]

theorem ofRequest_of_endpoint {method path : String} {resource : Resource} {endpoint : Endpoint}
    (found : Resource.ofPath path = some resource)
    (serves : resource.endpoint? method = some endpoint) :
    ofRequest method path = .found endpoint :=
  ofRequest_eq_found_iff.mpr ⟨resource, found, serves⟩

end CyberRange.Route
