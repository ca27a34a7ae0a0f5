import CyberRange.Proofs.Registry.Runs

namespace CyberRange

/-! What each operation on a registry does when it is not refused, with everything it
needs for that. -/

namespace Session

/-- The session with its cursor at another place, and nothing else changed. -/
def atCursor (cursor : Nat) (session : Session) : Session :=
  { session with
    terminal.processor.history := { session.terminal.processor.history with cursor } }

/-- The session after one step of its cursor. -/
def recalled (direction : Direction) (session : Session) : Session :=
  { session with terminal := (session.terminal.recallLine direction).2 }

theorem recalled_eq_atCursor (direction : Direction) (session : Session) :
    session.recalled direction =
      session.atCursor (session.terminal.processor.history.recallLine direction).2.cursor := by
  have lines := session.terminal.processor.history.entries_recallLine direction
  simp only [recalled, atCursor, Console.recallLine, Terminal.recallLine, Processor.recallLine,
    ← lines]

end Session

namespace Registry

variable {registry after : Registry} {session : Session} {id line : String} {now : Timestamp}
  {result : Option CommandResult} {direction : Direction} {given : Json}

theorem get_ok_iff :
    registry.get id = .ok session ↔ Entries.get? id registry.sessions = some session := by
  cases found : Entries.get? id registry.sessions <;> simp [get, found]

theorem get_cases (id : String) (registry : Registry) :
    (id ∈ registry.sessionIds ∧ ∃ session, registry.get id = .ok session) ∨
      (id ∉ registry.sessionIds ∧ registry.get id = .error (.unknownSession id)) := by
  cases found : Entries.get? id registry.sessions with
  | none => exact .inr ⟨Entries.get?_eq_none_iff.mp found, by simp only [get, found]⟩
  | some session =>
      exact .inl ⟨Entries.mem_keys_of_get? found, session, get_ok_iff.mpr found⟩

theorem sessionIds_put (session : Session) (registry : Registry) :
    (registry.put session).sessionIds =
      if session.id ∈ registry.sessionIds then registry.sessionIds
      else registry.sessionIds ++ [session.id] :=
  Entries.keys_put ..

theorem size_eq (registry : Registry) : registry.size = registry.sessionIds.length := by
  simp [size, sessionIds, Entries.keys]

theorem window_ok_iff (bounds : LatencyBounds) :
    (∃ latency, bounds.window = .ok latency) ↔ 0 ≤ bounds.low ∧ bounds.low ≤ bounds.high := by
  by_cases ordered : 0 ≤ bounds.low ∧ bounds.low ≤ bounds.high <;>
    simp [LatencyBounds.window, Latency.ofBounds, ordered]

/-- The wish for a session is refused at the limit and for bounds that are no window;
the latter costs an id. -/
theorem register_cases (now : Timestamp) (ids : IdSource) (registry : Registry) :
    (registry.capacity ≤ registry.size ∧
        registry.register now ids = (.error (.limitReached registry.capacity), ids)) ∨
      (registry.size < registry.capacity ∧ ∃ invalid, registry.latency.window = .error invalid ∧
        registry.register now ids = (.error (.invalidLatency invalid), ids.take.2)) ∨
      (registry.size < registry.capacity ∧ ∃ latency, registry.latency.window = .ok latency ∧
        registry.register now ids =
          (.ok (Session.create now ids.take.1 latency,
            registry.put (Session.create now ids.take.1 latency)), ids.take.2)) := by
  by_cases full : registry.capacity ≤ registry.size
  · exact .inl ⟨full, by rw [register, if_pos full]⟩
  · have room : registry.size < registry.capacity := Nat.not_le.mp full
    cases window : registry.latency.window with
    | error invalid =>
        refine .inr (.inl ⟨room, invalid, rfl, ?_⟩)
        simp only [register, if_neg full, Session.build, Session.chooseId, window, Except.map]
    | ok latency =>
        refine .inr (.inr ⟨room, latency, rfl, ?_⟩)
        simp only [register, if_neg full, Session.build, Session.chooseId, window, Except.map]

theorem eq_of_register {ids later : IdSource}
    (registered : registry.register now ids = (.ok (session, after), later)) :
    ∃ latency, registry.latency.window = .ok latency ∧
      session = Session.create now ids.take.1 latency ∧ after = registry.put session := by
  rcases register_cases now ids registry with
    ⟨-, refused⟩ | ⟨-, invalid, -, refused⟩ | ⟨-, latency, window, done⟩
  · simp [refused] at registered
  · simp [refused] at registered
  · rw [done] at registered
    obtain ⟨rfl, rfl⟩ := Prod.mk.inj (Except.ok.inj (Prod.mk.inj registered).1)
    exact ⟨latency, window, rfl, rfl⟩

theorem reset_ok_iff :
    registry.reset now id = .ok (session, after) ↔
      id ∈ registry.sessionIds ∧ ∃ latency, registry.latency.window = .ok latency ∧
        session = Session.create now id latency ∧ after = registry.put session := by
  rcases get_cases id registry with ⟨member, old, found⟩ | ⟨absent, missing⟩
  · cases window : registry.latency.window with
    | error invalid => simp [reset, found, window]
    | ok latency =>
        simp only [reset, found, window, Except.ok.injEq, Prod.mk.injEq, member, true_and]
        constructor
        · rintro ⟨rfl, rfl⟩
          exact ⟨latency, rfl, rfl, rfl⟩
        · rintro ⟨_, rfl, rfl, rfl⟩
          exact ⟨rfl, rfl⟩
  · simp [reset, missing, absent]

theorem delete_ok_iff :
    registry.delete id = .ok after ↔
      id ∈ registry.sessionIds ∧
        after = { registry with sessions := Entries.erase id registry.sessions } := by
  rcases get_cases id registry with ⟨member, old, found⟩ | ⟨absent, missing⟩
  · simp only [delete, found, Except.ok.injEq, member, true_and, eq_comm]
  · simp [delete, missing, absent]

theorem submit_ok_iff :
    registry.submit now id line = .ok (result, after) ↔
      ∃ session, registry.get id = .ok session ∧ result = (session.terminal.submit now line).1 ∧
        after = registry.withTerminal id (session.terminal.submit now line).2 := by
  cases found : registry.get id with
  | error fault => simp [submit, found]
  | ok session => simp [submit, found, eq_comm]

theorem recallLine_ok_iff {recalled : String} :
    registry.recallLine id direction = .ok (recalled, after) ↔
      ∃ session, registry.get id = .ok session ∧
        recalled = (session.terminal.recallLine direction).1 ∧
        after = registry.withTerminal id (session.terminal.recallLine direction).2 := by
  cases found : registry.get id with
  | error fault => simp [recallLine, found]
  | ok session => simp [recallLine, found, eq_comm]

/-- Recalling a line moves a cursor one step. -/
theorem eq_of_recallLine {recalled : String}
    (done : registry.recallLine id direction = .ok (recalled, after)) :
    after = { registry with
      sessions := Entries.adjust id (Session.recalled direction) registry.sessions } := by
  obtain ⟨session, found, -, rfl⟩ := recallLine_ok_iff.mp done
  rw [get_ok_iff] at found
  have moved : ∀ held, Entries.get? id registry.sessions = some held →
      { held with terminal := (session.terminal.recallLine direction).2 } =
        held.recalled direction := by
    intro held same
    obtain rfl : session = held := Option.some.inj (found.symm.trans same)
    rfl
  rw [withTerminal, Entries.adjust_congr moved]

theorem navigate_ok_iff {recalled : String} :
    registry.navigate id given = .ok (recalled, after) ↔
      ∃ direction, Direction.read given = .ok direction ∧
        registry.recallLine id direction = .ok (recalled, after) := by
  cases found : registry.get id with
  | error fault => simp [navigate, recallLine, found]
  | ok session => cases read : Direction.read given <;> simp [navigate, found, read]

end Registry

end CyberRange
