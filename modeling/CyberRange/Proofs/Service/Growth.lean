import CyberRange.Proofs.Service.Atomicity
import CyberRange.Proofs.Shell.Recording

namespace CyberRange

/-! How much one request can add.

It registers one session at most and records one line at most in a history, and one that
recalls a line takes a single step.  This holds of every request, whatever path it names.
-/

/-- The lines that were recorded for an id; none if there is no session under it. -/
def Session.linesIn (sessions : Entries Session) (id : String) : List String :=
  match Entries.get? id sessions with
  | some session => session.terminal.processor.history.entries
  | none => []

/-- What may happen to the lines of a history at once: nothing, or it is given up, or one
line is added. -/
inductive AddsOne (lines : List String) : List String → Prop where
  | same : AddsOne lines lines
  | none : AddsOne lines []
  | added (line : String) : AddsOne lines (lines ++ [line])

theorem AddsOne.count_le {lines later : List String} (adds : AddsOne lines later)
    (line : String) : later.count line ≤ lines.count line + 1 := by
  cases adds with
  | same => exact Nat.le_succ _
  | none => exact Nat.zero_le _
  | added other =>
      rw [List.count_append]
      exact Nat.add_le_add_left List.count_le_length _

namespace Session

variable {sessions : Entries Session} {session : Session} {id other : String}

theorem linesIn_congr {one two : Entries Session}
    (same : Entries.get? id two = Entries.get? id one) : linesIn two id = linesIn one id := by
  simp only [linesIn, same]

theorem addsOne_put (blank : session.terminal.processor.history.entries = [])
    (id : String) (sessions : Entries Session) :
    AddsOne (linesIn sessions id) (linesIn (Entries.put session.id session sessions) id) := by
  by_cases own : id = session.id
  · subst own
    have emptied : linesIn (Entries.put session.id session sessions) session.id = [] := by
      simp only [linesIn, Entries.get?_put_self, blank]
    rw [emptied]
    exact .none
  · rw [linesIn_congr (Entries.get?_put_of_ne own session sessions)]
    exact .same

theorem addsOne_erase (other id : String) (sessions : Entries Session) :
    AddsOne (linesIn sessions id) (linesIn (Entries.erase other sessions) id) := by
  by_cases own : id = other
  · subst own
    have emptied : linesIn (Entries.erase id sessions) id = [] := by
      simp only [linesIn, Entries.get?_erase_self]
    rw [emptied]
    exact .none
  · rw [linesIn_congr (Entries.get?_erase_of_ne own sessions)]
    exact .same

theorem addsOne_adjust {change : Session → Session} (id : String)
    (adds : ∀ session, Entries.get? other sessions = some session →
      AddsOne session.terminal.processor.history.entries
        (change session).terminal.processor.history.entries) :
    AddsOne (linesIn sessions id) (linesIn (Entries.adjust other change sessions) id) := by
  by_cases own : id = other
  · subst own
    cases held : Entries.get? id sessions with
    | none =>
        simp only [linesIn, Entries.get?_adjust_self, held, Option.map_none]
        exact .same
    | some session =>
        simp only [linesIn, Entries.get?_adjust_self, held, Option.map_some]
        exact adds session held
  · rw [linesIn_congr (Entries.get?_adjust_of_ne own change sessions)]
    exact .same

end Session

namespace Service

variable {service : Service} {registry after : Registry} {request : Http.Request} {order : Order}
  {ids : IdSource} {now : Timestamp}

theorem Outcome.addsOne (outcome : Outcome now ids registry order after) (id : String) :
    AddsOne (Session.linesIn registry.sessions id) (Session.linesIn after.sessions id) := by
  cases outcome with
  | create registered =>
      obtain ⟨latency, -, rfl, rfl⟩ := Registry.eq_of_register registered
      exact Session.addsOne_put rfl id registry.sessions
  | list => exact .same
  | describe => exact .same
  | delete deleted =>
      obtain ⟨-, rfl⟩ := Registry.delete_ok_iff.mp deleted
      exact Session.addsOne_erase _ id registry.sessions
  | execute submitted =>
      obtain ⟨session, found, -, rfl⟩ := Registry.submit_ok_iff.mp submitted
      rw [Registry.get_ok_iff] at found
      refine Session.addsOne_adjust id fun held same => ?_
      obtain rfl : session = held := Option.some.inj (found.symm.trans same)
      rw [Console.toTerminal_submit]
      rcases Terminal.entries_submit now _ session.terminal.toTerminal with
        kept | ⟨command, recorded⟩
      · rw [kept]
        exact .same
      · rw [recorded]
        exact .added command
  | recallLine recalled =>
      rw [Registry.eq_of_recallLine recalled]
      refine Session.addsOne_adjust id fun held _ => ?_
      rw [Session.recalled_eq_atCursor]
      exact .same
  | reset restarted =>
      obtain ⟨-, latency, -, rfl, rfl⟩ := Registry.reset_ok_iff.mp restarted
      exact Session.addsOne_put rfl id registry.sessions

theorem Outcome.size_le (outcome : Outcome now ids registry order after) :
    after.size ≤ registry.size + 1 := by
  have put : ∀ session, (registry.put session).size ≤ registry.size + 1 := by
    intro session
    rw [Registry.size_eq, Registry.size_eq, Registry.sessionIds_put]
    split
    · exact Nat.le_succ _
    · exact Nat.le_of_eq List.length_append
  have adjusted : ∀ id change,
      (Entries.adjust id change registry.sessions).length = registry.size := by
    intro id change
    have same := congrArg List.length (Entries.keys_adjust id change registry.sessions)
    rwa [Entries.keys, Entries.keys, List.length_map, List.length_map] at same
  cases outcome with
  | create registered =>
      obtain ⟨latency, -, rfl, rfl⟩ := Registry.eq_of_register registered
      exact put _
  | list | describe => exact Nat.le_succ _
  | delete deleted =>
      obtain ⟨-, rfl⟩ := Registry.delete_ok_iff.mp deleted
      exact Nat.le_succ_of_le (List.length_filter_le _ _)
  | execute submitted =>
      obtain ⟨session, -, -, rfl⟩ := Registry.submit_ok_iff.mp submitted
      exact Nat.le_succ_of_le (Nat.le_of_eq (adjusted _ _))
  | recallLine recalled =>
      rw [Registry.eq_of_recallLine recalled]
      exact Nat.le_succ_of_le (Nat.le_of_eq (adjusted _ _))
  | reset restarted =>
      obtain ⟨-, latency, -, rfl, rfl⟩ := Registry.reset_ok_iff.mp restarted
      exact put _

theorem sessions_of_provider {later : Service} (same : later.provider = service.provider) :
    later.sessions = service.sessions := by
  rw [sessions, same]
  rfl

theorem addsOne_handle (now : Timestamp) (request : Http.Request) (service : Service)
    (id : String) :
    AddsOne (Session.linesIn service.sessions id)
      (Session.linesIn (service.handle now request).2.sessions id) := by
  rcases handle_cases now request service with
    same | ⟨-, registry, task, order, after, shared, -, -, changed, outcome⟩
  · rw [sessions_of_provider same]
    exact .same
  · simp only [sessions, shared, changed]
    exact outcome.addsOne id

theorem length_handle (now : Timestamp) (request : Http.Request) (service : Service) :
    (service.handle now request).2.sessions.length ≤ service.sessions.length + 1 := by
  rcases handle_cases now request service with
    same | ⟨-, registry, task, order, after, shared, -, -, changed, outcome⟩
  · rw [sessions_of_provider same]
    exact Nat.le_succ _
  · simp only [sessions, shared, changed]
    exact outcome.size_le

/-- A request that recalls a line takes one step in one history, always the same. -/
theorem exists_recalled_handle {direction : Direction} (get : request.method = "GET")
    (given : request.url.queryItems = [("direction", direction.name)]) :
    ∃ id, ∀ now service,
      ((service : Service).handle now request).2.sessions = service.sessions ∨
        (service.handle now request).2.sessions =
          Entries.adjust id (Session.recalled direction) service.sessions := by
  have read : readDirection request.url.queryItems = .valid direction := by
    rw [given]
    cases direction <;> rfl
  by_cases history : ∃ id, Resource.ofPath request.url.path = some (.history id)
  · obtain ⟨id, path⟩ := history
    refine ⟨id, fun now service => ?_⟩
    rcases handle_get now get service with
      same | ⟨registry, other, found, shared, named, valid, changed⟩
    · exact .inl (sessions_of_provider same)
    · rw [path] at named
      rw [read] at valid
      obtain rfl : id = other := Resource.history.inj (Option.some.inj named)
      obtain rfl : direction = found := Checked.valid.inj valid
      simp only [sessions, shared, changed]
      exact .inr trivial
  · refine ⟨"", fun now service => .inl ?_⟩
    rcases handle_get now get service with same | ⟨registry, id, found, -, path, -⟩
    · exact sessions_of_provider same
    · exact absurd ⟨id, path⟩ history

end Service

end CyberRange
