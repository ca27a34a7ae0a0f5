import CyberRange.Proofs.Registry.Isolation
import Mathlib.Data.List.Induction

namespace CyberRange

/-! Which sessions are registered after a run.

A run is judged by what its operations were answered with: a session enters with the
answer to its creation and leaves with the answer to a deletion or to the clearing of
the registry.  `Kept` says that the registered ids are the ones that the answers leave,
and every operation carries it on.  An id that a creation takes cannot be registered
already, since all registered ids were handed out before it.
-/

namespace IdSource

variable {ids : IdSource}

/-- The ids handed out so far, oldest first. -/
def handedOut (ids : IdSource) : List String :=
  (List.range ids.issued).map fun number => ids.idAt (number + 1)

/-- Ids as random identifiers are: never empty, and never the same one twice. -/
structure Distinct (ids : IdSource) : Prop where
  filled : ∀ id ∈ ids.handedOut, id ≠ ""
  nodup : ids.handedOut.Nodup

theorem handedOut_take (ids : IdSource) :
    ids.take.2.handedOut = ids.handedOut ++ [ids.take.1] := by
  simp [handedOut, take, List.range_succ]

theorem Distinct.of_prefix {later : IdSource} (distinct : later.Distinct)
    (before : ids.handedOut <+: later.handedOut) : ids.Distinct :=
  ⟨fun id member => distinct.filled id (before.subset member),
    distinct.nodup.sublist before.sublist⟩

/-- The id that is handed out next is a new one. -/
theorem Distinct.take_not_mem (distinct : ids.take.2.Distinct) :
    ids.take.1 ∉ ids.handedOut := by
  have apart := distinct.nodup
  rw [handedOut_take, List.nodup_append] at apart
  intro member
  exact apart.2.2 _ member _ List.mem_cons_self rfl

end IdSource

namespace Registry

/-- Every session is registered under its own id. -/
def Named (registry : Registry) : Prop :=
  ∀ id session, registry.get id = .ok session → session.id = id

variable {registry : Registry}

theorem named_of_empty (empty : registry.sessions = []) : registry.Named := by
  intro id session got
  simp [get_ok_iff, empty, Entries.get?] at got

theorem Named.put (named : registry.Named) (session : Session) : (registry.put session).Named := by
  intro id found got
  rw [get_ok_iff] at got
  by_cases own : id = session.id
  · subst own
    obtain rfl : session = found := by simpa [Registry.put] using got
    rfl
  · rw [Registry.put, Entries.get?_put_of_ne own] at got
    exact named id found (get_ok_iff.mpr got)

theorem Named.withTerminal (named : registry.Named) (id : String) (terminal : Console) :
    (registry.withTerminal id terminal).Named := by
  intro other found got
  rw [get_ok_iff] at got
  by_cases own : other = id
  · subst own
    rw [Registry.withTerminal, Entries.get?_adjust_self, Option.map_eq_some_iff] at got
    obtain ⟨session, held, rfl⟩ := got
    exact named other session (get_ok_iff.mpr held)
  · rw [Registry.withTerminal, Entries.get?_adjust_of_ne own] at got
    exact named other found (get_ok_iff.mpr got)

theorem Named.erase (named : registry.Named) (id : String) :
    Named { registry with sessions := Entries.erase id registry.sessions } := by
  intro other found got
  rw [get_ok_iff] at got
  by_cases own : other = id
  · subst own
    simp at got
  · rw [Entries.get?_erase_of_ne own] at got
    exact named other found (get_ok_iff.mpr got)

end Registry

open Registry (Operation Response)

/-- An operation with what it was answered. -/
abbrev Answered := Operation × Except RegistryFault Response

namespace Answered

/-- The id under which a session was registered. -/
def opened? : Answered → Option String
  | (.create, .ok (.session session)) => some session.id
  | _ => none

/-- What is left of the ids that were registered before. -/
def spared (ids : List String) : Answered → List String
  | (.delete id, .ok _) => ids.filter (· ≠ id)
  | (.clear, .ok _) => []
  | _ => ids

/-- All ids under which sessions were registered, in the order of their creation. -/
def opened (log : List Answered) : List String :=
  log.filterMap opened?

/-- The ids that are left in the end, if none was registered at first. -/
def standing (log : List Answered) : List String :=
  log.foldl (fun ids answered => spared ids answered ++ (opened? answered).toList) []

variable {log : List Answered} {answered : Answered} {ids : List String} {id : String}

theorem spared_sublist (ids : List String) (answered : Answered) :
    (spared ids answered).Sublist ids := by
  unfold spared
  split
  · exact List.filter_sublist
  · exact List.nil_sublist ids
  · exact List.Sublist.refl ids

theorem standing_concat (log : List Answered) (answered : Answered) :
    standing (log ++ [answered]) =
      spared (standing log) answered ++ (opened? answered).toList := by
  rw [standing, List.foldl_append]
  rfl

theorem opened_append (log more : List Answered) : opened (log ++ more) = opened log ++ opened more :=
  List.filterMap_append ..

theorem opened_concat (log : List Answered) (answered : Answered) :
    opened (log ++ [answered]) = opened log ++ (opened? answered).toList := by
  rw [opened_append]
  cases found : opened? answered <;> simp [opened, found]

/-- What stands after more operations stood before them or was registered by them. -/
theorem mem_standing_append {more : List Answered} (member : id ∈ standing (log ++ more)) :
    id ∈ standing log ∨ id ∈ opened more := by
  induction more using List.reverseRecOn with
  | nil => exact .inl (by simpa using member)
  | append_singleton rest answered induction =>
      rw [← List.append_assoc, standing_concat, List.mem_append] at member
      rw [opened_concat, List.mem_append]
      rcases member with old | new
      · exact (induction ((spared_sublist _ _).subset old)).imp_right .inl
      · exact .inr (.inr new)

end Answered

namespace Desk

open Answered (opened? spared opened standing)

variable {desk after : Desk} {log : List Answered} {operation : Operation} {now : Timestamp}
  {most : Int} {bounds : LatencyBounds}

/-- What a run from an empty registry with the given limits has led to: the answers of
its operations, and a desk. -/
structure Kept (most : Int) (bounds : LatencyBounds) (log : List Answered) (desk : Desk) :
    Prop where
  capacity : desk.registry.capacity = most
  latency : desk.registry.latency = bounds
  bounded : desk.registry.size ≤ desk.registry.capacity
  named : desk.registry.Named
  standing : desk.registry.sessionIds = standing log
  inOrder : desk.registry.sessionIds.Sublist (opened log)
  issued : (opened log).Sublist desk.ids.handedOut
  timed : desk.registry.sessionIds ≠ [] → ∃ latency, bounds.window = .ok latency

theorem Kept.of_create {registry : Registry} (created : Registry.create most bounds = .ok registry)
    (ids : IdSource) : Kept most bounds [] { registry, ids } := by
  by_cases positive : 1 ≤ most
  · simp only [Registry.create, dif_pos positive, Except.ok.injEq] at created
    subst created
    refine ⟨?_, rfl, Nat.zero_le _, Registry.named_of_empty rfl, rfl, List.nil_sublist _,
      List.nil_sublist _, fun some => absurd rfl some⟩
    exact Int.toNat_of_nonneg (by omega)
  · simp [Registry.create, positive] at created

/-- Nobody enters: the ids that are left are those that the answer spares. -/
theorem Kept.spare {answered : Answered} (kept : Kept most bounds log desk)
    (capacity : after.registry.capacity = desk.registry.capacity)
    (latency : after.registry.latency = desk.registry.latency) (named : after.registry.Named)
    (opens : opened? answered = none)
    (left : after.registry.sessionIds = spared desk.registry.sessionIds answered)
    (ids : desk.ids.handedOut <+: after.ids.handedOut) :
    Kept most bounds (log ++ [answered]) after := by
  have fewer : after.registry.sessionIds.Sublist desk.registry.sessionIds := by
    rw [left]
    exact Answered.spared_sublist ..
  have log_opened : opened (log ++ [answered]) = opened log := by
    rw [Answered.opened_concat, opens, Option.toList_none, List.append_nil]
  refine ⟨capacity ▸ kept.capacity, latency ▸ kept.latency, ?_, named, ?_, ?_, ?_, ?_⟩
  · have before := kept.bounded
    have shorter := fewer.length_le
    rw [Registry.size_eq] at before ⊢
    omega
  · rw [Answered.standing_concat, opens, left, kept.standing, Option.toList_none, List.append_nil]
  · rw [log_opened]
    exact fewer.trans kept.inOrder
  · rw [log_opened]
    exact kept.issued.trans ids.sublist
  · intro some
    refine kept.timed fun none => some ?_
    rw [none] at fewer
    exact List.sublist_nil.mp fewer

/-- A session enters under an id that has just been handed out. -/
theorem Kept.enter {session : Session} {latency : Latency} (kept : Kept most bounds log desk)
    (room : desk.registry.size < desk.registry.capacity)
    (window : desk.registry.latency.window = .ok latency) (own : session.id = desk.ids.take.1)
    (distinct : desk.ids.take.2.Distinct) :
    Kept most bounds (log ++ [(.create, .ok (.session session))])
      { registry := desk.registry.put session, ids := desk.ids.take.2 } := by
  have unknown : session.id ∉ desk.registry.sessionIds := by
    rw [own]
    intro member
    exact distinct.take_not_mem (kept.issued.subset (kept.inOrder.subset member))
  have last : (desk.registry.put session).sessionIds = desk.registry.sessionIds ++ [session.id] := by
    rw [Registry.sessionIds_put, if_neg unknown]
  have opens : opened? (.create, .ok (.session session)) = some session.id := rfl
  refine ⟨kept.capacity, kept.latency, ?_, kept.named.put session, ?_, ?_, ?_,
    fun _ => ⟨latency, kept.latency ▸ window⟩⟩
  · rw [Registry.size_eq] at room ⊢
    rw [last, List.length_append]
    exact room
  · rw [Answered.standing_concat, last, kept.standing]
    rfl
  · rw [Answered.opened_concat, opens, last]
    exact kept.inOrder.append (List.Sublist.refl _)
  · rw [Answered.opened_concat, opens, IdSource.handedOut_take, own]
    exact kept.issued.append (List.Sublist.refl _)

/-- A refusal lets nobody in or out, though it may cost an id. -/
theorem Kept.refuse {ids : IdSource} (kept : Kept most bounds log desk) (operation : Operation)
    (fault : RegistryFault) (before : desk.ids.handedOut <+: ids.handedOut) :
    Kept most bounds (log ++ [(operation, .error fault)]) { desk with ids } := by
  have opens : opened? (operation, .error fault) = none := by cases operation <;> rfl
  have spares : spared desk.registry.sessionIds (operation, .error fault) =
      desk.registry.sessionIds := by cases operation <;> rfl
  exact kept.spare rfl rfl kept.named opens spares.symm before

theorem Kept.settle {respond : α → Response} {outcome : Except RegistryFault (α × Registry)}
    (kept : Kept most bounds log desk)
    (done : ∀ value registry, outcome = .ok (value, registry) →
      Kept most bounds (log ++ [(operation, .ok (respond value))]) { desk with registry }) :
    Kept most bounds (log ++ [(operation, (desk.settle respond outcome).1)])
      (desk.settle respond outcome).2 := by
  cases outcome with
  | error fault => exact kept.refuse operation fault (List.prefix_refl _)
  | ok found => exact done found.1 found.2 rfl

/-- Every operation carries on what the operations before it led to. -/
theorem Kept.apply (kept : Kept most bounds log desk) (now : Timestamp) (operation : Operation)
    (distinct : (desk.apply now operation).2.ids.Distinct) :
    Kept most bounds (log ++ [(operation, (desk.apply now operation).1)]) (desk.apply now operation).2 := by
  have same := List.prefix_refl desk.ids.handedOut
  cases operation with
  | create =>
      rcases Registry.register_cases now desk.ids desk.registry with
        ⟨-, refused⟩ | ⟨-, invalid, -, refused⟩ | ⟨room, latency, window, registered⟩
      · simp only [Desk.apply, refused, Desk.settle]
        exact kept.refuse .create _ same
      · simp only [Desk.apply, refused, Desk.settle]
        refine kept.refuse .create _ ?_
        rw [IdSource.handedOut_take]
        exact List.prefix_append ..
      · simp only [Desk.apply, registered, Desk.settle] at distinct ⊢
        exact kept.enter room window rfl distinct
  | get id => exact kept.spare rfl rfl kept.named rfl rfl same
  | list => exact kept.spare rfl rfl kept.named rfl rfl same
  | clear => exact kept.spare rfl rfl (Registry.named_of_empty rfl) rfl rfl same
  | submit id line =>
      refine kept.settle fun result registry done => ?_
      obtain ⟨session, -, -, rfl⟩ := Registry.submit_ok_iff.mp done
      exact kept.spare rfl rfl (kept.named.withTerminal id _) rfl (Entries.keys_adjust ..) same
  | recallLine id given =>
      refine kept.settle fun recalled registry done => ?_
      obtain ⟨direction, -, moved⟩ := Registry.navigate_ok_iff.mp done
      obtain ⟨session, -, -, rfl⟩ := Registry.recallLine_ok_iff.mp moved
      exact kept.spare rfl rfl (kept.named.withTerminal id _) rfl (Entries.keys_adjust ..) same
  | reset id =>
      refine kept.settle fun session registry done => ?_
      have unmoved := (Registry.changedAt_reset done).keys
      obtain ⟨-, latency, -, rfl, rfl⟩ := Registry.reset_ok_iff.mp done
      exact kept.spare rfl rfl (kept.named.put _) rfl unmoved same
  | delete id =>
      refine kept.settle fun _ registry done => ?_
      cases erased : desk.registry.delete id with
      | error fault => simp [erased, Except.map] at done
      | ok left =>
          obtain rfl : left = registry := by simpa [erased, Except.map] using done
          obtain ⟨-, rfl⟩ := Registry.delete_ok_iff.mp erased
          exact kept.spare rfl rfl (kept.named.erase id) rfl (Entries.keys_erase ..) same

theorem ids_settle (respond : α → Response) (outcome : Except RegistryFault (α × Registry)) :
    (desk.settle respond outcome).2.ids = desk.ids := by
  cases outcome <;> rfl

theorem handedOut_apply (now : Timestamp) (operation : Operation) (desk : Desk) :
    desk.ids.handedOut <+: (desk.apply now operation).2.ids.handedOut := by
  cases operation with
  | create =>
      rcases Registry.register_cases now desk.ids desk.registry with
        ⟨-, refused⟩ | ⟨-, invalid, -, refused⟩ | ⟨-, latency, -, registered⟩
      · simp only [apply, refused, ids_settle]
        exact List.prefix_refl _
      · simp only [apply, refused, ids_settle, IdSource.handedOut_take]
        exact List.prefix_append ..
      · simp only [apply, registered, ids_settle, IdSource.handedOut_take]
        exact List.prefix_append ..
  | get | list | clear => exact List.prefix_refl _
  | submit | recallLine | reset | delete =>
      simp only [apply, ids_settle]
      exact List.prefix_refl _

theorem handedOut_run (operations : List (Timestamp × Operation)) (desk : Desk) :
    desk.ids.handedOut <+: (desk.run operations).2.ids.handedOut := by
  induction operations generalizing desk with
  | nil => exact List.prefix_refl _
  | cons entry rest induction =>
      exact (handedOut_apply entry.1 entry.2 desk).trans (induction _)

/-- What every operation carries on, a run carries on. -/
theorem Kept.run {operations : List (Timestamp × Operation)} (kept : Kept most bounds log desk)
    (distinct : (desk.run operations).2.ids.Distinct) :
    Kept most bounds (log ++ (desk.run operations).1) (desk.run operations).2 := by
  induction operations generalizing log desk with
  | nil => simpa [Desk.run] using kept
  | cons entry rest induction =>
      obtain ⟨now, operation⟩ := entry
      have next := kept.apply now operation (distinct.of_prefix (handedOut_run rest _))
      have last := induction next distinct
      rwa [List.append_assoc] at last

theorem run_append (earlier later : List (Timestamp × Operation)) (desk : Desk) :
    desk.run (earlier ++ later) =
      ((desk.run earlier).1 ++ ((desk.run earlier).2.run later).1,
        ((desk.run earlier).2.run later).2) := by
  induction earlier generalizing desk with
  | nil => rfl
  | cons entry rest induction => simp only [List.cons_append, Desk.run, induction]

/-- A registry as it is after a run from an empty one, judged by the answers. -/
structure Orderly (most : Int) (log : List Answered) (registry : Registry) : Prop where
  bounded : registry.size ≤ most
  named : ∀ id ∈ registry.sessionIds,
    id ≠ "" ∧ ∃ session, registry.get id = .ok session ∧ session.id = id
  standing : registry.sessionIds = standing log
  inOrder : registry.sessionIds.Sublist (opened log)
  once : (opened log).Nodup

/-- What can be relied on when a desk is asked for something. -/
structure Dependable (most : Int) (bounds : LatencyBounds) (desk : Desk) : Prop where
  creates : ∀ now, (∃ session, (desk.apply now .create).1 = .ok (.session session)) ↔
    desk.registry.size < most ∧ 0 ≤ bounds.low ∧ bounds.low ≤ bounds.high
  refuses : ∀ now operation fault, (desk.apply now operation).1 = .error fault →
    (desk.apply now operation).2.registry = desk.registry
  resets : ∀ now, ∀ id ∈ desk.registry.sessionIds,
    let after := (desk.apply now (.reset id)).2.registry
    ∃ session, (desk.apply now (.reset id)).1 = .ok (.session session) ∧
      (∀ ids, Session.build now (some id) bounds ids = (.ok session, ids)) ∧
      after.get id = .ok session ∧ after.sessionIds = desk.registry.sessionIds ∧
      ∀ other, other ≠ id → after.get other = desk.registry.get other

theorem Kept.orderly (kept : Kept most bounds log desk) (distinct : desk.ids.Distinct) :
    Orderly most log desk.registry where
  bounded := by
    have held := kept.bounded
    have limit := kept.capacity
    omega
  named := by
    intro id member
    have issued : id ∈ desk.ids.handedOut := kept.issued.subset (kept.inOrder.subset member)
    rcases Registry.get_cases id desk.registry with ⟨-, session, found⟩ | ⟨absent, -⟩
    · exact ⟨distinct.filled id issued, session, found, kept.named id session found⟩
    · exact absurd member absent
  standing := kept.standing
  inOrder := kept.inOrder
  once := distinct.nodup.sublist kept.issued

theorem apply_create_ok_iff (now : Timestamp) (desk : Desk) :
    (∃ session, (desk.apply now .create).1 = .ok (.session session)) ↔
      desk.registry.size < desk.registry.capacity ∧
        ∃ latency, desk.registry.latency.window = .ok latency := by
  rcases Registry.register_cases now desk.ids desk.registry with
    ⟨full, refused⟩ | ⟨room, invalid, window, refused⟩ | ⟨room, latency, window, registered⟩
  · have none : ¬ desk.registry.size < desk.registry.capacity := Nat.not_lt.mpr full
    simp [apply, refused, settle, none]
  · simp [apply, refused, settle, window]
  · simp [apply, registered, settle, room, window]

/-- What is refused is not begun. -/
theorem registry_of_refused {fault : RegistryFault}
    (refused : (desk.apply now operation).1 = .error fault) :
    (desk.apply now operation).2.registry = desk.registry := by
  have settled : ∀ {α : Type} {respond : α → Response} {outcome} {one : Desk},
      (one.settle respond outcome).1 = .error fault →
        (one.settle respond outcome).2.registry = one.registry := by
    intro α respond outcome one refused
    cases outcome with
    | error cause => rfl
    | ok found => simp [settle] at refused
  cases operation with
  | get | list => rfl
  | clear => simp [apply] at refused
  | create | submit | recallLine | reset | delete => exact settled refused

theorem Kept.dependable (kept : Kept most bounds log desk) (distinct : desk.ids.Distinct) :
    Dependable most bounds desk where
  creates := by
    intro now
    rw [apply_create_ok_iff, kept.latency, Registry.window_ok_iff, ← kept.capacity, Int.ofNat_lt]
  refuses := fun _ _ _ => registry_of_refused
  resets := by
    intro now id member after
    obtain ⟨latency, window⟩ := kept.timed (List.ne_nil_of_mem member)
    have issued : id ∈ desk.ids.handedOut := kept.issued.subset (kept.inOrder.subset member)
    have filled : id ≠ "" := distinct.filled id issued
    have done : desk.registry.reset now id =
        .ok (Session.create now id latency, desk.registry.put (Session.create now id latency)) :=
      Registry.reset_ok_iff.mpr ⟨member, latency, kept.latency ▸ window, rfl, rfl⟩
    have applied : desk.apply now (.reset id) =
        (.ok (.session (Session.create now id latency)),
          { desk with registry := desk.registry.put (Session.create now id latency) }) := by
      simp only [Desk.apply, done, Desk.settle]
    have left : after = desk.registry.put (Session.create now id latency) :=
      congrArg (fun outcome => outcome.2.registry) applied
    have changed : Registry.ChangedAt id desk.registry after := by
      rw [left]
      exact Registry.changedAt_reset done
    refine ⟨_, congrArg Prod.fst applied, fun ids => ?_, ?_, changed.keys,
      fun other different => ?_⟩
    · simp only [Session.build, Session.chooseId, if_neg filled, window, Except.map]
    · rw [left]
      exact Registry.get_ok_iff.mpr (Entries.get?_put_self ..)
    · simp only [Registry.get, changed.others other different]

/-- A registry over runs.  After every run from an empty registry it has its order, its
operations can be relied on, and an id that was registered once and is not any longer
stays out whatever is done later. -/
theorem registry_over_runs {registry : Registry}
    (created : Registry.create most bounds = .ok registry) (ids : IdSource)
    (earlier later : List (Timestamp × Operation))
    (distinct : (Desk.run (earlier ++ later) { registry, ids }).2.ids.Distinct) :
    let reached := Desk.run earlier { registry, ids }
    let last := Desk.run later reached.2
    Orderly most reached.1 reached.2.registry ∧ Dependable most bounds reached.2 ∧
      ∀ id ∈ opened reached.1, id ∉ reached.2.registry.sessionIds →
        id ∉ last.2.registry.sessionIds := by
  intro reached last
  rw [run_append] at distinct
  have whole : last.2.ids.Distinct := distinct
  have part : reached.2.ids.Distinct := whole.of_prefix (handedOut_run later _)
  have start : Kept most bounds [] { registry, ids } := .of_create created ids
  have first : Kept most bounds reached.1 reached.2 := start.run part
  have second : Kept most bounds (reached.1 ++ last.1) last.2 := first.run whole
  refine ⟨first.orderly part, first.dependable part, fun id once gone back => ?_⟩
  have apart := (second.orderly whole).once
  rw [Answered.opened_append, List.nodup_append] at apart
  rw [second.standing] at back
  rcases Answered.mem_standing_append back with stood | again
  · exact gone (first.standing ▸ stood)
  · exact apart.2.2 id once id again rfl

/-- A registry for two sessions: a third one is refused, and the place of a deleted one is
taken under a new id. -/
theorem registry_over_runs_of_two :
    let registry : Registry :=
      { capacity := 2, capacity_pos := by decide, latency := .instant, sessions := [] }
    let first := IdSource.numbered 1
    let earlier := [Operation.create, .create, .create, .delete first].map
      fun operation => ((default : Timestamp), operation)
    let later := [Operation.create, .reset (IdSource.numbered 2), .submit first "pwd", .clear].map
      fun operation => ((default : Timestamp), operation)
    let reached := Desk.run earlier { registry, ids := .fresh }
    let last := Desk.run later reached.2
    Registry.create 2 .instant = .ok registry ∧
      (Desk.run (earlier ++ later) { registry, ids := .fresh }).2.ids.Distinct ∧
      Orderly 2 reached.1 reached.2.registry ∧ Dependable 2 .instant reached.2 ∧
      ∀ id ∈ opened reached.1, id ∉ reached.2.registry.sessionIds →
        id ∉ last.2.registry.sessionIds := by
  intro registry first earlier later
  have created : Registry.create 2 .instant = .ok registry := rfl
  have handed : (Desk.run (earlier ++ later) { registry, ids := .fresh }).2.ids.handedOut =
      [IdSource.numbered 1, IdSource.numbered 2, IdSource.numbered 3] := by decide +kernel
  have distinct : (Desk.run (earlier ++ later) { registry, ids := .fresh }).2.ids.Distinct := by
    refine ⟨?_, ?_⟩ <;> rw [handed] <;> decide +kernel
  exact ⟨created, distinct, registry_over_runs created .fresh earlier later distinct⟩

end Desk

end CyberRange
