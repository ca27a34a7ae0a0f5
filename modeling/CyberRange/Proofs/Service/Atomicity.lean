import CyberRange.Proofs.Service.Effects

namespace CyberRange.Service

/-! A request that is not granted leaves no trace, and one that only asks leaves none but
the cursor of a history that it steps through. -/

variable {service : Service} {request : Http.Request} {task : Task} {order : Order} {now : Timestamp}

/-- An order comes from a task of its own kind, for the same session. -/
theorem order_of_describe {id : String}
    (read : Order.ofRequest request (.describe id) = .valid order) : order = .describe id := by
  simpa [Order.ofRequest, eq_comm] using read

theorem order_of_list (read : Order.ofRequest request .list = .valid order) : order = .list := by
  simpa [Order.ofRequest, eq_comm] using read

theorem order_of_recallLine {id : String}
    (read : Order.ofRequest request (.recallLine id) = .valid order) :
    ∃ direction, readDirection request.url.queryItems = .valid direction ∧
      order = .recallLine id direction := by
  cases given : readDirection request.url.queryItems with
  | invalid issues => simp [Order.ofRequest, given, Checked.map, Checked.under] at read
  | valid direction =>
      simp only [Order.ofRequest, given, Checked.map, Checked.under, Checked.valid.injEq] at read
      exact ⟨direction, rfl, read.symm⟩

/-- Whether a request is granted or not, one that only asks changes at most a cursor. -/
theorem handle_get (now : Timestamp) (get : request.method = "GET") (service : Service) :
    (service.handle now request).2.provider = service.provider ∨
      ∃ registry id direction, service.provider = .shared registry ∧
        Resource.ofPath request.url.path = some (.history id) ∧
        readDirection request.url.queryItems = .valid direction ∧
        (service.handle now request).2.provider =
          .shared { registry with
            sessions := Entries.adjust id (Session.recalled direction) registry.sessions } := by
  rcases handle_cases now request service with
    same | ⟨-, registry, task, order, after, shared, route, read, changed, outcome⟩
  · exact .inl same
  · rw [get] at route
    obtain ⟨resource, path, serves⟩ := Route.ofRequest_eq_found_iff.mp route
    rw [changed, shared]
    rcases Resource.task_of_get serves with
      ⟨rfl, rfl⟩ | ⟨id, rfl, rfl⟩ | ⟨id, rfl, rfl⟩
    · obtain rfl := order_of_list read
      cases outcome
      exact .inl rfl
    · obtain rfl := order_of_describe read
      cases outcome
      exact .inl rfl
    · obtain ⟨direction, given, rfl⟩ := order_of_recallLine read
      cases outcome with
      | recallLine recalled =>
          exact .inr ⟨registry, id, direction, rfl, path, given,
            congrArg Provider.shared (Registry.eq_of_recallLine recalled)⟩

/-- A response that is no success leaves the registry behind as it was, and so does every
request that only asks, unless it recalls a line: then it has moved the cursor of the
session that its path names, and nothing else. -/
theorem handle_atomic (now : Timestamp) (request : Http.Request) (service : Service) :
    let outcome := service.handle now request
    (outcome.1.isSuccess = false → outcome.2.provider = service.provider) ∧
      (request.method = "GET" → outcome.2.provider = service.provider ∨
        ∃ registry id cursor, Resource.ofPath request.url.path = some (.history id) ∧
          service.provider = .shared registry ∧
          outcome.2.provider = .shared { registry with
            sessions := Entries.adjust id (Session.atCursor cursor) registry.sessions }) := by
  intro outcome
  refine ⟨fun refused => ?_, fun get => ?_⟩
  · rcases handle_cases now request service with same | ⟨success, -⟩
    · exact same
    · rw [refused] at success
      contradiction
  · rcases handle_get now get service with
      same | ⟨registry, id, direction, shared, path, -, changed⟩
    · exact .inl same
    · cases held : Entries.get? id registry.sessions with
      | none =>
          have untouched : ∀ value, Entries.get? id registry.sessions = some value →
              value.recalled direction = value.atCursor 0 := by
            intro value found
            rw [held] at found
            contradiction
          exact .inr ⟨registry, id, 0, path, shared,
            changed.trans (by rw [Entries.adjust_congr untouched])⟩
      | some session =>
          have moved : ∀ value, Entries.get? id registry.sessions = some value →
              value.recalled direction = value.atCursor
                (session.terminal.processor.history.recallLine direction).2.cursor := by
            intro value found
            obtain rfl : session = value := Option.some.inj (held.symm.trans found)
            exact session.recalled_eq_atCursor direction
          exact .inr ⟨registry, id, _, path, shared,
            changed.trans (by rw [Entries.adjust_congr moved])⟩

end CyberRange.Service
