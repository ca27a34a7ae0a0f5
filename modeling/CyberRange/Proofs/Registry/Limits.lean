import CyberRange.Proofs.Registry.Steps
import CyberRange.Proofs.Service.Settings
import CyberRange.Proofs.Shell.Effects
import CyberRange.Proofs.Terminal.InTurn

namespace CyberRange

/-! The limits of a registry and of its sessions: under fitting settings no operation is
refused for them but at the limit itself, and none of them ever changes. -/

open Registry (Operation Response)

namespace Terminal

/-- The window of the delays of a terminal. -/
def window (terminal : Terminal) : Latency :=
  terminal.processor.network.latency

theorem window_submit (now : Timestamp) (line : String) (terminal : Terminal) :
    (terminal.submit now line).2.window = terminal.window := by
  rcases submit_cases now line terminal with
    ⟨-, submitted⟩ | ⟨-, submitted⟩ | ⟨command, -, submitted⟩
  · rw [submitted]
  · rw [submitted]
    rfl
  · rw [submitted, window, processor_display]
    exact (Processor.network_execute now command terminal.processor).2

theorem window_recallLine (direction : Direction) (terminal : Terminal) :
    (terminal.recallLine direction).2.window = terminal.window := rfl

/-- The delays of a terminal are those of the settings. -/
structure Paced (settings : Settings) (terminal : Terminal) : Prop where
  low : (terminal.window.low : Int) = settings.latencyMin
  high : (terminal.window.high : Int) = settings.latencyMax

end Terminal

/-- Fitting bounds are a window, and are not cut down to be one. -/
theorem Settings.Fitting.window {settings : Settings} (fitting : settings.Fitting) :
    ∃ window : Latency, settings.latency.window = .ok window ∧
      (window.low : Int) = settings.latencyMin ∧ (window.high : Int) = settings.latencyMax := by
  obtain ⟨notNegative, ordered, -⟩ := fitting
  refine ⟨⟨settings.latencyMin.toNat, settings.latencyMax.toNat, by omega⟩, ?_, ?_, ?_⟩
  · exact dif_pos ⟨notNegative, ordered⟩
  · exact Int.toNat_of_nonneg notNegative
  · exact Int.toNat_of_nonneg (Int.le_trans notNegative ordered)

theorem Settings.Fitting.registry {settings : Settings} (fitting : settings.Fitting) :
    ∃ registry, settings.registry = .ok registry ∧
      (registry.capacity : Int) = settings.maxSessions ∧ registry.latency = settings.latency ∧
        registry.sessions = [] :=
  ⟨_, dif_pos fitting.positive, Int.toNat_of_nonneg (Int.le_trans (by decide) fitting.positive),
    rfl, rfl⟩

namespace Registry

variable {settings : Settings} {registry : Registry} {id : String}

/-- A registry whose limits, and those of its sessions, are the ones of the settings. -/
structure Follows (settings : Settings) (registry : Registry) : Prop where
  capacity : (registry.capacity : Int) = settings.maxSessions
  latency : registry.latency = settings.latency
  sessions : ∀ entry ∈ registry.sessions, entry.2.terminal.Paced settings

theorem Follows.withSessions (follows : registry.Follows settings) {sessions : Entries Session}
    (kept : ∀ entry ∈ sessions, entry.2.terminal.Paced settings) :
    { registry with sessions }.Follows settings :=
  ⟨follows.capacity, follows.latency, kept⟩

/-- A new session has the window of the registry. -/
theorem Follows.put_create (follows : registry.Follows settings) (fitting : settings.Fitting)
    {window : Latency} (found : registry.latency.window = .ok window) (now : Timestamp)
    (id : String) : (registry.put (Session.create now id window)).Follows settings := by
  obtain ⟨own, same, low, high⟩ := fitting.window
  rw [follows.latency, same] at found
  obtain rfl := Except.ok.inj found
  refine follows.withSessions fun entry member => ?_
  rcases Entries.mem_of_mem_put member with rfl | old
  · exact ⟨low, high⟩
  · exact follows.sessions entry old

theorem Follows.withTerminal (follows : registry.Follows settings) {session : Session}
    (held : registry.get id = .ok session) {terminal : Console}
    (same : terminal.window = session.terminal.window) :
    (registry.withTerminal id terminal).Follows settings := by
  obtain ⟨low, high⟩ := follows.sessions _ (Entries.mem_of_get? (get_ok_iff.mp held))
  refine follows.withSessions fun entry member => ?_
  rcases Entries.mem_of_mem_adjust member with old | ⟨before, -, changed⟩
  · exact follows.sessions entry old
  · rw [changed]
    exact ⟨same ▸ low, same ▸ high⟩

theorem Follows.erase (follows : registry.Follows settings) (id : String) :
    { registry with sessions := Entries.erase id registry.sessions }.Follows settings :=
  follows.withSessions fun entry member => follows.sessions entry (List.mem_filter.mp member).1

end Registry

namespace Desk

variable {settings : Settings} {desk : Desk} {now : Timestamp} {operation : Operation}

theorem follows_settle {respond : α → Response} {outcome : Except RegistryFault (α × Registry)}
    (follows : desk.registry.Follows settings)
    (done : ∀ value registry, outcome = .ok (value, registry) → registry.Follows settings) :
    (desk.settle respond outcome).2.registry.Follows settings := by
  cases outcome with
  | error fault => exact follows
  | ok found => exact done found.1 found.2 rfl

/-- No operation touches the limits. -/
theorem follows_apply (follows : desk.registry.Follows settings) (fitting : settings.Fitting)
    (now : Timestamp) (operation : Operation) :
    (desk.apply now operation).2.registry.Follows settings := by
  cases operation with
  | get | list => exact follows
  | clear => exact follows.withSessions fun _ member => absurd member List.not_mem_nil
  | create =>
      refine follows_settle follows fun session registry registered => ?_
      obtain ⟨window, found, rfl, rfl⟩ := Registry.eq_of_register
        (Prod.ext_iff.mpr ⟨registered, rfl⟩)
      exact follows.put_create fitting found now _
  | submit id line =>
      refine follows_settle follows fun result registry done => ?_
      obtain ⟨session, held, -, rfl⟩ := Registry.submit_ok_iff.mp done
      exact follows.withTerminal held (Terminal.window_submit now line session.terminal.toTerminal)
  | recallLine id given =>
      refine follows_settle follows fun line registry done => ?_
      obtain ⟨direction, -, recalled⟩ := Registry.navigate_ok_iff.mp done
      obtain ⟨session, held, -, rfl⟩ := Registry.recallLine_ok_iff.mp recalled
      exact follows.withTerminal held
        (Terminal.window_recallLine direction session.terminal.toTerminal)
  | reset id =>
      refine follows_settle follows fun session registry done => ?_
      obtain ⟨-, window, found, rfl, rfl⟩ := Registry.reset_ok_iff.mp done
      exact follows.put_create fitting found now id
  | delete id =>
      refine follows_settle follows fun _ registry done => ?_
      cases deleted : desk.registry.delete id with
      | error fault => simp [deleted, Except.map] at done
      | ok after =>
          obtain ⟨-, rfl⟩ := Registry.delete_ok_iff.mp deleted
          obtain rfl : _ = registry := by simpa [deleted, Except.map] using done
          exact follows.erase id

theorem follows_run (follows : desk.registry.Follows settings) (fitting : settings.Fitting)
    (operations : List (Timestamp × Operation)) :
    (desk.run operations).2.registry.Follows settings := by
  induction operations generalizing desk with
  | nil => exact follows
  | cons timed rest induction =>
      obtain ⟨now, operation⟩ := timed
      exact induction (follows_apply follows fitting now operation)

/-- What an operation can be refused for once the limits are fitting. -/
inductive Refused (registry : Registry) : Operation → RegistryFault → Prop where
  | unknown (operation : Operation) (id : String) :
      Refused registry operation (.unknownSession id)
  | full (room : registry.capacity ≤ registry.size) :
      Refused registry .create (.limitReached registry.capacity)
  | misdirected {id given unknown} (read : Direction.read given = .error unknown) :
      Refused registry (.recallLine id given) (.unknownDirection unknown)

theorem refused_of_follows {fault : RegistryFault} (follows : desk.registry.Follows settings)
    (fitting : settings.Fitting) (refused : (desk.apply now operation).1 = .error fault) :
    Refused desk.registry operation fault := by
  obtain ⟨window, found, -⟩ := fitting.window
  rw [← follows.latency] at found
  cases operation with
  | list | clear => simp [apply] at refused
  | create =>
      rcases Registry.register_cases now desk.ids desk.registry with
        ⟨room, answered⟩ | ⟨-, invalid, none, -⟩ | ⟨-, _, -, answered⟩
      · simp only [apply, answered, settle, Except.error.injEq] at refused
        exact refused ▸ .full room
      · simp [found] at none
      · simp [apply, answered, settle] at refused
  | recallLine id given =>
      rcases Registry.get_cases id desk.registry with ⟨-, session, held⟩ | ⟨-, missing⟩
      · cases read : Direction.read given with
        | error unknown =>
            simp only [apply, Registry.navigate, held, read, settle, Except.error.injEq] at refused
            exact refused ▸ .misdirected read
        | ok direction =>
            simp [apply, Registry.navigate, Registry.recallLine, held, read, settle] at refused
      · simp only [apply, Registry.navigate, missing, settle, Except.error.injEq] at refused
        exact refused ▸ .unknown _ id
  | get id | submit id line | reset id | delete id =>
      rcases Registry.get_cases id desk.registry with ⟨-, session, held⟩ | ⟨-, missing⟩
      · simp [apply, Registry.submit, Registry.reset, Registry.delete, held, found, settle,
          Except.map] at refused
      · simp only [apply, Registry.submit, Registry.reset, Registry.delete, missing, settle,
          Except.map, Except.error.injEq] at refused
        exact refused ▸ .unknown _ id

end Desk

end CyberRange
