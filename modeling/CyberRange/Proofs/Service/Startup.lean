import CyberRange.Proofs.Client.Direct
import CyberRange.Proofs.Registry.Lifetimes
import CyberRange.Proofs.Registry.Limits

namespace CyberRange

/-! Starting with settings from the environment.  The limits are looked at three times: when
the settings are read, when the registry is made, and when a session is; what passes at
first passes ever after.
-/

open Registry (Operation Response)

namespace Service

/-- What is asked of the program: to start its service with an environment, to stop it, to
show the shared registry, and to operate on that. -/
inductive Errand where
  | start (environment : Entries String)
  | stop
  | look
  | operate (now : Timestamp) (operation : Operation)

inductive Trouble where
  | notStarted (fault : StartFault)
  | noRegistry (refusal : Refusal)
  | refused (fault : RegistryFault)

inductive Answer where
  | registry (registry : Registry)
  | response (response : Response)
  | stopped

/-- Whether a trouble is one with a value: with a limit or a window that is none, or with a
direction.  Settings are reported in their own way. -/
def Trouble.isBadValue : Trouble → Bool
  | .notStarted (.invalidCapacity _) => true
  | .noRegistry (.badValue _) => true
  | .refused (.invalidLatency _) | .refused (.unknownDirection _) => true
  | _ => false

def shown (service : Service) : Except Trouble Answer :=
  match service.provider.get with
  | .error refusal => .error (.noRegistry refusal)
  | .ok registry => .ok (.registry registry)

def operate (now : Timestamp) (operation : Operation) (service : Service) :
    Except Trouble Answer × Service :=
  match service.provider.get with
  | .error refusal => (.error (.noRegistry refusal), service)
  | .ok registry =>
      let (response, desk) := Desk.apply now operation { registry, ids := service.ids }
      ((response.map Answer.response).mapError .refused, desk.served)

def attend (service : Service) : Errand → Except Trouble Answer × Service
  | .start environment =>
      match service.start (Settings.ofEnvironment environment) with
      | .error fault => (.error (.notStarted fault), service)
      | .ok later => (later.shown, later)
  | .stop => (.ok .stopped, service.stop)
  | .look => (service.shown, service)
  | .operate now operation => service.operate now operation

def attendAll : List Errand → Service → List (Errand × Except Trouble Answer) × Service
  | [], service => ([], service)
  | errand :: rest, service =>
      let (answer, next) := service.attend errand
      let (answers, last) := attendAll rest next
      ((errand, answer) :: answers, last)

/-- Whether an errand recalls a line in a direction that is none. -/
def Errand.Misdirects : Errand → Prop
  | .operate _ (.recallLine _ given) => ∃ unknown, Direction.read given = .error unknown
  | _ => False

/-- Whether an errand leaves the registry that is shared where it is: a stop drops it, and
a start puts another in its place unless it fails. -/
def Errand.Spares : Errand → Prop
  | .start environment => ∃ issues, Settings.ofEnvironment environment = .invalid issues
  | .stop => False
  | .look | .operate _ _ => True

def Errand.operation? : Errand → Option (Timestamp × Operation)
  | .operate now operation => some (now, operation)
  | _ => none

/-- No registry is shared, or one that follows fitting settings. -/
def Steady (service : Service) : Prop :=
  service.provider = .uninitialized ∨
    ∃ settings registry, service.provider = .shared registry ∧ settings.Fitting ∧
      registry.Follows settings

variable {settings : Settings} {registry : Registry} {service : Service} {errand : Errand}

/-- Settings that are read make a registry: what is checked again passes again. -/
theorem start_cases (environment : Entries String) (service : Service) :
    (∃ issues, Settings.ofEnvironment environment = .invalid issues ∧
        service.start (Settings.ofEnvironment environment) = .error (.invalidSettings issues)) ∨
      ∃ settings registry, Settings.ofEnvironment environment = .valid settings ∧
        settings.Fitting ∧ registry.Follows settings ∧ registry.sessions = [] ∧
        service.start (Settings.ofEnvironment environment) =
          .ok { service with provider := .shared registry } := by
  cases read : Settings.ofEnvironment environment with
  | invalid issues => exact .inl ⟨issues, rfl, rfl⟩
  | valid settings =>
      obtain ⟨-, fitting⟩ := Settings.ofEnvironment_eq_valid_iff.mp read
      obtain ⟨registry, made, capacity, latency, empty⟩ := fitting.registry
      refine .inr ⟨settings, registry, rfl, fitting, ⟨capacity, latency, ?_⟩, empty, ?_⟩
      · rw [empty]
        exact fun _ member => absurd member List.not_mem_nil
      · simp only [start, Provider.ofSettings, made, Except.map]

theorem operate_shared (shared : service.provider = .shared registry) (now : Timestamp)
    (operation : Operation) :
    service.operate now operation =
      ((((Desk.mk registry service.ids).apply now operation).1.map Answer.response).mapError
          .refused,
        ((Desk.mk registry service.ids).apply now operation).2.served) := by
  simp only [operate, shared, Provider.get]

theorem Steady.operate (steady : service.Steady) (now : Timestamp) (operation : Operation) :
    (service.operate now operation).2.Steady ∧
      ∀ trouble, (service.operate now operation).1 = .error trouble →
        trouble.isBadValue = true → (Errand.operate now operation).Misdirects := by
  rcases steady with bare | ⟨settings, registry, shared, fitting, follows⟩
  · simp only [Service.operate, bare, Provider.get]
    refine ⟨.inl bare, ?_⟩
    rintro trouble ⟨rfl⟩ bad
    exact absurd bad Bool.false_ne_true
  · rw [operate_shared shared]
    refine ⟨.inr ⟨settings, _, rfl, fitting, Desk.follows_apply follows fitting now operation⟩, ?_⟩
    intro trouble troubled bad
    cases given : ((Desk.mk registry service.ids).apply now operation).1 with
    | ok response => simp [given, Except.map, Except.mapError] at troubled
    | error fault =>
        obtain rfl : _ = trouble := by simpa [given, Except.map, Except.mapError] using troubled
        cases Desk.refused_of_follows follows fitting given with
        | unknown | full => exact absurd bad Bool.false_ne_true
        | misdirected read => exact ⟨_, read⟩

theorem Steady.shown (steady : service.Steady) {trouble : Trouble}
    (troubled : service.shown = .error trouble) : trouble.isBadValue = false := by
  rcases steady with bare | ⟨settings, registry, shared, -⟩
  · simp only [Service.shown, bare, Provider.get, Except.error.injEq] at troubled
    rw [← troubled]
    rfl
  · simp [Service.shown, shared, Provider.get] at troubled

theorem Steady.attend (steady : service.Steady) (errand : Errand) :
    (service.attend errand).2.Steady ∧
      ∀ trouble, (service.attend errand).1 = .error trouble → trouble.isBadValue = true →
        errand.Misdirects := by
  cases errand with
  | operate now operation => exact steady.operate now operation
  | stop => exact ⟨.inl rfl, fun trouble troubled => nomatch troubled⟩
  | look =>
      refine ⟨steady, fun trouble troubled bad => ?_⟩
      rw [steady.shown troubled] at bad
      exact absurd bad Bool.false_ne_true
  | start environment =>
      rcases start_cases environment service with
        ⟨issues, -, failed⟩ | ⟨settings, registry, -, fitting, follows, -, started⟩
      · simp only [Service.attend, failed]
        refine ⟨steady, ?_⟩
        rintro trouble ⟨rfl⟩ bad
        exact absurd bad Bool.false_ne_true
      · simp only [Service.attend, started]
        refine ⟨.inr ⟨settings, registry, rfl, fitting, follows⟩, fun trouble troubled => ?_⟩
        simp [Service.shown, Provider.get] at troubled

theorem attendAll_cons (errand : Errand) (rest : List Errand) (service : Service) :
    service.attendAll (errand :: rest) =
      ((errand, (service.attend errand).1) :: ((service.attend errand).2.attendAll rest).1,
        ((service.attend errand).2.attendAll rest).2) := by
  simp only [attendAll]

theorem Steady.attendAll (steady : service.Steady) (errands : List Errand) :
    (service.attendAll errands).2.Steady ∧
      ∀ errand trouble, (errand, Except.error trouble) ∈ (service.attendAll errands).1 →
        trouble.isBadValue = true → errand.Misdirects := by
  induction errands generalizing service with
  | nil => exact ⟨steady, fun _ _ member => absurd member List.not_mem_nil⟩
  | cons errand rest induction =>
      obtain ⟨next, harmless⟩ := steady.attend errand
      obtain ⟨last, later⟩ := induction next
      rw [attendAll_cons]
      refine ⟨last, fun other trouble member bad => ?_⟩
      rcases List.mem_cons.mp member with first | member
      · obtain ⟨rfl, troubled⟩ := Prod.mk.inj first
        exact harmless trouble troubled.symm bad
      · exact later other trouble member bad

/-- An errand that spares the registry does to it what its operation does. -/
theorem attend_served (desk : Desk) (spares : errand.Spares) :
    (desk.served.attend errand).2 = (desk.run errand.operation?.toList).2.served := by
  cases errand with
  | operate now operation => rfl
  | look => rfl
  | stop => exact spares.elim
  | start environment =>
      obtain ⟨issues, read⟩ := spares
      simp only [attend, read, start]
      rfl

theorem attendAll_served {errands : List Errand} (desk : Desk)
    (spare : ∀ errand ∈ errands, errand.Spares) :
    (desk.served.attendAll errands).2 =
      (desk.run (errands.filterMap Errand.operation?)).2.served := by
  induction errands generalizing desk with
  | nil => rfl
  | cons errand rest induction =>
      have first := attend_served desk (spare errand List.mem_cons_self)
      have later := induction (desk.run errand.operation?.toList).2 fun other member =>
        spare other (List.mem_cons_of_mem _ member)
      rw [attendAll_cons, first, later]
      cases named : errand.operation? with
      | none => rw [List.filterMap_cons_none named]; rfl
      | some operation => rw [List.filterMap_cons_some named]; rfl

/-- A registry that follows fitting settings has room for a session until it is full. -/
theorem attend_create_ok_iff {desk : Desk} (follows : desk.registry.Follows settings)
    (fitting : settings.Fitting) (now : Timestamp) :
    (∃ session, (desk.served.attend (.operate now .create)).1 =
        .ok (.response (.session session))) ↔
      (desk.registry.size : Int) < settings.maxSessions := by
  obtain ⟨window, found, -⟩ := fitting.window
  have room : (∃ session, (desk.apply now .create).1 = .ok (.session session)) ↔
      desk.registry.size < desk.registry.capacity := by
    rw [Desk.apply_create_ok_iff, follows.latency]
    exact and_iff_left ⟨window, found⟩
  rw [← follows.capacity, Int.ofNat_lt, ← room, attend, operate_shared rfl]
  change (∃ session, ((((desk.apply now .create).1.map Answer.response).mapError .refused :
    Except Trouble Answer)) = _) ↔ _
  cases (desk.apply now .create).1 <;> simp [Except.map, Except.mapError]

/-- What the registry of a service can be relied on for while nothing else takes its place,
and what the service can be after that. -/
structure Lasting (settings : Settings) (desk : Desk) : Prop where
  creates : ∀ now, ∃ session, (desk.served.attend (.operate now .create)).1 =
    .ok (.response (.session session))
  harmless : ∀ errands errand trouble,
    (errand, Except.error trouble) ∈ (desk.served.attendAll errands).1 →
      trouble.isBadValue = true → errand.Misdirects
  steady : ∀ errands, (desk.served.attendAll errands).2.Steady
  shared : ∀ errands : List Errand, (∀ errand ∈ errands, errand.Spares) →
    let later := (desk.run (errands.filterMap Errand.operation?)).2
    (desk.served.attendAll errands).2 = later.served ∧
      ((desk.served.attendAll errands).2.attend .look).1 = .ok (.registry later.registry) ∧
      later.registry.Follows settings

/-- An environment that is not accepted leaves the service as it is; one that is accepted
puts a registry in its place that fails nobody. -/
theorem accepted_environment_lasts (environment : Entries String) (service : Service) :
    (∃ issues, (¬ ∃ settings : Settings, settings.SuppliedBy environment ∧ settings.Fitting) ∧
        service.attend (.start environment) =
          (.error (.notStarted (.invalidSettings issues)), service)) ∨
      ∃ (settings : Settings) (registry : Registry),
        (settings.SuppliedBy environment ∧ settings.Fitting) ∧
        registry.Follows settings ∧ registry.sessions = [] ∧
        service.attend (.start environment) =
          (.ok (.registry registry), (Desk.mk registry service.ids).served) ∧
        Lasting settings { registry, ids := service.ids } := by
  rcases start_cases environment service with
    ⟨issues, read, failed⟩ | ⟨settings, registry, read, fitting, follows, empty, started⟩
  · refine .inl ⟨issues, ?_, by simp only [attend, failed]⟩
    rintro ⟨settings, accepted⟩
    rw [Settings.ofEnvironment_eq_valid_iff.mpr accepted] at read
    simp at read
  · have steady : (Desk.mk registry service.ids).served.Steady :=
      .inr ⟨settings, registry, rfl, fitting, follows⟩
    refine .inr ⟨settings, registry, Settings.ofEnvironment_eq_valid_iff.mp read, follows, empty,
      ?_, ?_, ?_, ?_, ?_⟩
    · simp only [attend, started]
      rfl
    · refine fun now => (attend_create_ok_iff follows fitting now).mpr ?_
      have none : registry.size = 0 := by rw [Registry.size, empty]; rfl
      have positive := fitting.positive
      simp only [none]
      omega
    · exact fun errands => (steady.attendAll errands).2
    · exact fun errands => (steady.attendAll errands).1
    · intro errands spare later
      have reached := attendAll_served { registry, ids := service.ids } spare
      refine ⟨reached, ?_, Desk.follows_run follows fitting _⟩
      rw [reached]
      rfl

/-- One bound of the window alone, between blanks, is enough for settings. -/
theorem accepted_environment_lasts_of_one_bound :
    let environment : Entries String := [("VLAB_LATENCY_MIN_MS", " 650 ")]
    let settings : Settings := { latencyMin := 650, latencyMax := 700, maxSessions := 100 }
    let service : Service := .create .uninitialized
    Settings.ofEnvironment environment = .valid settings ∧
      ∃ registry, service.attend (.start environment) =
          (.ok (.registry registry), (Desk.mk registry service.ids).served) ∧
        Lasting settings { registry, ids := service.ids } := by
  intro environment settings service
  have read : Settings.ofEnvironment environment = .valid settings := by rfl
  have accepted := Settings.ofEnvironment_eq_valid_iff.mp read
  rcases accepted_environment_lasts environment service with
    ⟨issues, none, -⟩ | ⟨other, registry, given, -, -, started, lasting⟩
  · exact absurd ⟨settings, accepted⟩ none
  · have same := Settings.ofEnvironment_eq_valid_iff.mpr given
    rw [read] at same
    obtain rfl : settings = other := Checked.valid.inj same
    exact ⟨read, registry, started, lasting⟩

end Service

end CyberRange
