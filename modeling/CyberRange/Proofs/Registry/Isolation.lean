import CyberRange.Proofs.Registry.Steps

namespace CyberRange

/-! Sessions do not influence each other.

`SameFor id` relates two desks that nobody who uses the session `id` and the
registry as a whole can tell apart: the sessions have the same ids in the same
order, and the one under `id` is the same.  What concerns `id` or the registry
as a whole gives the same on related desks and keeps them related; every use of
another session leads to a related desk.  Erasing such uses from a run therefore
goes unnoticed.
-/

namespace Registry

variable {registry : Registry} {id other : String}

/-- A registry after one of its sessions was replaced or changed: the ids keep
their order, and the other sessions stay as they are. -/
structure ChangedAt (id : String) (before after : Registry) : Prop where
  capacity : after.capacity = before.capacity
  latency : after.latency = before.latency
  keys : Entries.keys after.sessions = Entries.keys before.sessions
  others : ∀ other, other ≠ id →
    Entries.get? other after.sessions = Entries.get? other before.sessions

theorem changedAt_withTerminal (id : String) (terminal : Console) (registry : Registry) :
    ChangedAt id registry (registry.withTerminal id terminal) :=
  ⟨rfl, rfl, Entries.keys_adjust .., fun _ different => Entries.get?_adjust_of_ne different ..⟩

/-- Putting a session in the place of a registered one moves no id. -/
theorem changedAt_put {session : Session}
    (present : session.id ∈ registry.sessionIds) :
    ChangedAt session.id registry (registry.put session) := by
  refine ⟨rfl, rfl, ?_, fun _ different => Entries.get?_put_of_ne different ..⟩
  exact (sessionIds_put session registry).trans (if_pos present)

theorem changedAt_submit {now : Timestamp} {line : String} {result : Option CommandResult}
    {after : Registry} (submitted : registry.submit now id line = .ok (result, after)) :
    ChangedAt id registry after := by
  obtain ⟨session, -, -, rfl⟩ := submit_ok_iff.mp submitted
  exact changedAt_withTerminal ..

theorem changedAt_recallLine {direction : Direction} {line : String} {after : Registry}
    (recalled : registry.recallLine id direction = .ok (line, after)) :
    ChangedAt id registry after := by
  obtain ⟨session, -, -, rfl⟩ := recallLine_ok_iff.mp recalled
  exact changedAt_withTerminal ..

theorem changedAt_navigate {given : Json} {line : String} {after : Registry}
    (recalled : registry.navigate id given = .ok (line, after)) :
    ChangedAt id registry after := by
  obtain ⟨direction, -, moved⟩ := navigate_ok_iff.mp recalled
  exact changedAt_recallLine moved

theorem changedAt_reset {now : Timestamp} {session : Session} {after : Registry}
    (reset : registry.reset now id = .ok (session, after)) : ChangedAt id registry after := by
  obtain ⟨present, latency, -, rfl, rfl⟩ := reset_ok_iff.mp reset
  have own : (Session.create now id latency).id ∈ registry.sessionIds := present
  exact changedAt_put own

end Registry

namespace Desk

open Registry (Operation Response ChangedAt)

variable {desk one two : Desk} {id : String} {operation : Operation} {now : Timestamp}

/-- Two desks that are the same for the session `id`. -/
structure SameFor (id : String) (one two : Desk) : Prop where
  capacity : one.registry.capacity = two.registry.capacity
  latency : one.registry.latency = two.registry.latency
  keys : Entries.keys one.registry.sessions = Entries.keys two.registry.sessions
  own : Entries.get? id one.registry.sessions = Entries.get? id two.registry.sessions
  ids : one.ids = two.ids

theorem SameFor.refl (id : String) (desk : Desk) : SameFor id desk desk :=
  ⟨rfl, rfl, rfl, rfl, rfl⟩

theorem SameFor.trans {three : Desk} (first : SameFor id one two) (second : SameFor id two three) :
    SameFor id one three :=
  ⟨first.capacity.trans second.capacity, first.latency.trans second.latency,
    first.keys.trans second.keys, first.own.trans second.own, first.ids.trans second.ids⟩

theorem SameFor.size (same : SameFor id one two) : one.registry.size = two.registry.size := by
  have lengths := congrArg List.length same.keys
  simpa [Entries.keys, Registry.size] using lengths

theorem SameFor.get (same : SameFor id one two) : one.registry.get id = two.registry.get id := by
  simp only [Registry.get, same.own]

/-- A use of another session changes nothing for `id`. -/
theorem sameFor_of_changedAt {other : String} {after : Registry} (different : id ≠ other)
    (changed : ChangedAt other desk.registry after) :
    SameFor id { desk with registry := after } desk :=
  ⟨changed.capacity, changed.latency, changed.keys, changed.others id different, rfl⟩

theorem sameFor_settle {other : String} {respond : α → Response}
    {outcome : Except RegistryFault (α × Registry)} (different : id ≠ other)
    (changed : ∀ value after, outcome = .ok (value, after) → ChangedAt other desk.registry after) :
    SameFor id (desk.settle respond outcome).2 desk := by
  cases outcome with
  | error fault => exact .refl id desk
  | ok found => exact sameFor_of_changedAt different (changed found.1 found.2 rfl)

/-- What does not matter to a session goes unnoticed there. -/
theorem sameFor_apply_of_apart (apart : operation.matters id = false) :
    SameFor id (desk.apply now operation).2 desk := by
  cases operation with
  | create | delete | list | clear => simp [Operation.matters] at apart
  | get other => exact .refl id desk
  | submit other line =>
      have different : id ≠ other := by simpa [Operation.matters, eq_comm] using apart
      exact sameFor_settle different fun _ _ => Registry.changedAt_submit
  | recallLine other given =>
      have different : id ≠ other := by simpa [Operation.matters, eq_comm] using apart
      exact sameFor_settle different fun _ _ => Registry.changedAt_navigate
  | reset other =>
      have different : id ≠ other := by simpa [Operation.matters, eq_comm] using apart
      exact sameFor_settle different fun _ _ => Registry.changedAt_reset

/-- A session that is put into related desks, under `id` or under another id. -/
theorem SameFor.put (same : SameFor id one two) (session : Session) :
    SameFor id { one with registry := one.registry.put session }
      { two with registry := two.registry.put session } := by
  refine ⟨same.capacity, same.latency, ?_, ?_, same.ids⟩
  · simp only [Registry.put, Entries.keys_put, same.keys]
  · by_cases own : id = session.id
    · subst own
      simp only [Registry.put, Entries.get?_put_self]
    · simp only [Registry.put, Entries.get?_put_of_ne own, same.own]

theorem SameFor.withTerminal (same : SameFor id one two) (terminal : Console) :
    SameFor id { one with registry := one.registry.withTerminal id terminal }
      { two with registry := two.registry.withTerminal id terminal } := by
  refine ⟨same.capacity, same.latency, ?_, ?_, same.ids⟩
  · simp only [Registry.withTerminal, Entries.keys_adjust, same.keys]
  · simp only [Registry.withTerminal, Entries.get?_adjust_self, same.own]

theorem SameFor.withIds (same : SameFor id one two) (ids : IdSource) :
    SameFor id { one with ids } { two with ids } :=
  ⟨same.capacity, same.latency, same.keys, same.own, rfl⟩

/-- Related desks give the same response and stay related. -/
def Alike (id : String) (one two : Except RegistryFault Response × Desk) : Prop :=
  one.1 = two.1 ∧ SameFor id one.2 two.2

theorem alike_create (same : SameFor id one two) :
    Alike id (one.apply now .create) (two.apply now .create) := by
  simp only [apply, Registry.register, same.capacity, same.size, same.ids, same.latency]
  split
  · exact ⟨rfl, same.withIds _⟩
  · obtain ⟨outcome, ids⟩ := Session.build now none two.registry.latency two.ids
    cases outcome with
    | error invalid => exact ⟨rfl, same.withIds ids⟩
    | ok session => exact ⟨rfl, (same.put session).withIds ids⟩

theorem alike_submit (same : SameFor id one two) (line : String) :
    Alike id (one.apply now (.submit id line)) (two.apply now (.submit id line)) := by
  simp only [apply, Registry.submit, same.get]
  cases two.registry.get id with
  | error fault => exact ⟨rfl, same⟩
  | ok session => exact ⟨rfl, same.withTerminal _⟩

theorem alike_recallLine (same : SameFor id one two) (given : Json) :
    Alike id (one.apply now (.recallLine id given)) (two.apply now (.recallLine id given)) := by
  simp only [apply, Registry.navigate, Registry.recallLine, same.get]
  cases two.registry.get id with
  | error fault => exact ⟨rfl, same⟩
  | ok session =>
      cases Direction.read given with
      | error unknown => exact ⟨rfl, same⟩
      | ok direction => exact ⟨rfl, same.withTerminal _⟩

theorem alike_reset (same : SameFor id one two) :
    Alike id (one.apply now (.reset id)) (two.apply now (.reset id)) := by
  simp only [apply, Registry.reset, same.get, same.latency]
  cases two.registry.get id with
  | error fault => exact ⟨rfl, same⟩
  | ok session =>
      cases two.registry.latency.window with
      | error invalid => exact ⟨rfl, same⟩
      | ok latency => exact ⟨rfl, same.put (Session.create now id latency)⟩

/-- Whether a session can be deleted depends on the registered ids alone, so the
deletion of another session is seen, but not what was in it. -/
theorem alike_delete (same : SameFor id one two) (other : String) :
    Alike id (one.apply now (.delete other)) (two.apply now (.delete other)) := by
  have erased : SameFor id
      { one with registry := { one.registry with
        sessions := Entries.erase other one.registry.sessions } }
      { two with registry := { two.registry with
        sessions := Entries.erase other two.registry.sessions } } := by
    refine ⟨same.capacity, same.latency, ?_, ?_, same.ids⟩
    · simp only [Entries.keys_erase, same.keys]
    · by_cases own : id = other
      · subst own
        simp only [Entries.get?_erase_self]
      · simp only [Entries.get?_erase_of_ne own, same.own]
  have present : Entries.get? other one.registry.sessions = none ↔
      Entries.get? other two.registry.sessions = none := by
    simp only [Entries.get?_eq_none_iff, same.keys]
  cases first : Entries.get? other one.registry.sessions with
  | none =>
      have second := present.mp first
      simp only [apply, Registry.delete, Registry.get, first, second]
      exact ⟨rfl, same⟩
  | some session =>
      cases second : Entries.get? other two.registry.sessions with
      | none =>
          rw [present.mpr second] at first
          contradiction
      | some session =>
          simp only [apply, Registry.delete, Registry.get, first, second]
          exact ⟨rfl, erased⟩

/-- What matters to a session is answered alike on related desks. -/
theorem alike_apply (same : SameFor id one two) (matters : operation.matters id = true) :
    Alike id (one.apply now operation) (two.apply now operation) := by
  cases operation with
  | create => exact alike_create same
  | get other =>
      obtain rfl : other = id := by simpa [Operation.matters] using matters
      exact ⟨by simp only [apply, same.get], same⟩
  | submit other line =>
      obtain rfl : other = id := by simpa [Operation.matters] using matters
      exact alike_submit same line
  | recallLine other given =>
      obtain rfl : other = id := by simpa [Operation.matters] using matters
      exact alike_recallLine same given
  | reset other =>
      obtain rfl : other = id := by simpa [Operation.matters] using matters
      exact alike_reset same
  | delete other => exact alike_delete same other
  | list => exact ⟨by simp only [apply, Registry.sessionIds, same.keys], same⟩
  | clear => exact ⟨rfl, same.capacity, same.latency, rfl, rfl, same.ids⟩

/-- A run and the same run without the uses of other sessions, from related desks. -/
theorem run_filter_matters (id : String) (operations : List (Timestamp × Operation))
    (one two : Desk) (same : SameFor id one two) :
    (one.run operations).1.filter (fun entry => entry.1.matters id) =
        (two.run (operations.filter fun entry => entry.2.matters id)).1 ∧
      SameFor id (one.run operations).2
        (two.run (operations.filter fun entry => entry.2.matters id)).2 := by
  induction operations generalizing one two with
  | nil => exact ⟨rfl, same⟩
  | cons entry rest induction =>
      obtain ⟨now, operation⟩ := entry
      cases matters : operation.matters id with
      | false =>
          have unnoticed : SameFor id (one.apply now operation).2 one :=
            sameFor_apply_of_apart matters
          have related := unnoticed.trans same
          obtain ⟨responses, last⟩ := induction _ _ related
          simp only [run, List.filter_cons, matters, Bool.false_eq_true, if_false]
          exact ⟨responses, last⟩
      | true =>
          have alike : Alike id (one.apply now operation) (two.apply now operation) :=
            alike_apply same matters
          obtain ⟨response, related⟩ := alike
          obtain ⟨responses, last⟩ := induction _ _ related
          simp only [run, List.filter_cons, matters, if_true, response]
          exact ⟨by rw [responses], last⟩

/-- Erasing the uses of other sessions from a run changes neither what the other
operations give nor the session `id`, nor which ids are registered or issued. -/
theorem run_erase_others (id : String) (operations : List (Timestamp × Operation)) (desk : Desk) :
    let whole := desk.run operations
    let erased := desk.run (operations.filter fun entry => entry.2.matters id)
    whole.1.filter (fun entry => entry.1.matters id) = erased.1 ∧
      whole.2.registry.get id = erased.2.registry.get id ∧
      whole.2.registry.sessionIds = erased.2.registry.sessionIds ∧
      whole.2.ids = erased.2.ids := by
  obtain ⟨responses, same⟩ := run_filter_matters id operations desk desk (.refl id desk)
  exact ⟨responses, same.get, same.keys, same.ids⟩

end Desk

end CyberRange
