import CyberRange.Settings

namespace CyberRange

/-! Which environments are accepted: every variable that is set has to hold a whole
number, and the numbers, supplied or left to their defaults, have to be a window of delays
and a positive limit. -/

namespace Checked

variable {α β : Type} {value : α} {outcome : Checked α}

theorem under_eq_valid_iff (step : Place) : outcome.under step = .valid value ↔
    outcome = .valid value := by
  cases outcome <;> simp [under]

theorem bind_eq_valid_iff {next : α → Checked β} {result : β} :
    outcome.bind next = .valid result ↔
      ∃ value, outcome = .valid value ∧ next value = .valid result := by
  cases outcome <;> simp [bind]

theorem map_eq_valid_iff {change : α → β} {result : β} :
    outcome.map change = .valid result ↔
      ∃ value, outcome = .valid value ∧ change value = result := by
  cases outcome <;> simp [map]

theorem apply_eq_valid_iff {change : Checked (α → β)} {result : β} :
    change.apply outcome = .valid result ↔
      ∃ made value, change = .valid made ∧ outcome = .valid value ∧ made value = result := by
  cases change <;> cases outcome <;> simp [apply]

end Checked

theorem Reader.atLeast_eq_valid_iff {least value : Int} {input : Json} :
    atLeast least input = .valid value ↔ integer input = .valid value ∧ least ≤ value := by
  rw [atLeast, Checked.bind_eq_valid_iff]
  constructor
  · rintro ⟨number, read, checked⟩
    split at checked
    · simp [Checked.fail] at checked
    · obtain rfl : number = value := by simpa using checked
      exact ⟨read, by omega⟩
  · rintro ⟨read, bound⟩
    exact ⟨value, read, if_neg (by omega)⟩

namespace Settings

variable {environment : Entries String} {settings : Settings} {input : Json} {name : String}
  {fallback value : Int}

/-- The number that a setting has: what its variable holds, or its default if the variable
is not set. -/
def Supplies (environment : Entries String) (name : String) (fallback value : Int) : Prop :=
  match Entries.get? name environment with
  | none => value = fallback
  | some text => Reader.integerOfText text (.text text) = .valid value

/-- The document of the variables that are set. -/
theorem field?_variables (environment : Entries String) {field name : String}
    (known : (field, name) ∈ variableNames) :
    (Json.object (variableNames.filterMap fun (field, name) =>
        (Entries.get? name environment).map fun value => (field, .text value))).field? field =
      (Entries.get? name environment).map Json.text := by
  simp only [variableNames, List.mem_cons, List.not_mem_nil, or_false, Prod.mk.injEq] at known
  cases low : Entries.get? "VLAB_LATENCY_MIN_MS" environment <;>
    cases high : Entries.get? "VLAB_LATENCY_MAX_MS" environment <;>
    cases most : Entries.get? "VLAB_MAX_SESSIONS" environment <;>
    rcases known with ⟨rfl, rfl⟩ | ⟨rfl, rfl⟩ | ⟨rfl, rfl⟩ <;>
    simp [variableNames, low, high, most, Json.field?, Entries.get?]

theorem defaulting_atLeast_iff {record : Json} {field : String} {least : Int}
    (held : record.field? field = (Entries.get? name environment).map Json.text)
    (standard : least ≤ fallback) :
    Reader.defaulting record field fallback (Reader.atLeast least) = .valid value ↔
      Supplies environment name fallback value ∧ least ≤ value := by
  cases given : Entries.get? name environment with
  | none =>
      simp only [Reader.defaulting, held, given, Option.map_none, Supplies, Checked.valid.injEq]
      constructor
      · rintro rfl
        exact ⟨rfl, standard⟩
      · rintro ⟨rfl, -⟩
        rfl
  | some text =>
      simp only [Reader.defaulting, held, given, Option.map_some, Supplies,
        Checked.under_eq_valid_iff, Reader.atLeast_eq_valid_iff, Reader.integer]

theorem checkWindow_eq_valid_iff {checked : Settings} :
    checkWindow input settings = .valid checked ↔
      settings = checked ∧ checked.latencyMin ≤ checked.latencyMax := by
  rw [checkWindow]
  split
  · constructor
    · simp [Checked.fail]
    · rintro ⟨rfl, ordered⟩
      omega
  · simp only [Checked.valid.injEq]
    constructor
    · rintro rfl
      exact ⟨rfl, by omega⟩
    · exact And.left

/-- Numbers that are limits: a positive one for sessions, and a window of delays. -/
structure Fitting (settings : Settings) : Prop where
  notNegative : 0 ≤ settings.latencyMin
  ordered : settings.latencyMin ≤ settings.latencyMax
  positive : 1 ≤ settings.maxSessions

structure SuppliedBy (environment : Entries String) (settings : Settings) : Prop where
  latencyMin : Supplies environment "VLAB_LATENCY_MIN_MS" 200 settings.latencyMin
  latencyMax : Supplies environment "VLAB_LATENCY_MAX_MS" 700 settings.latencyMax
  maxSessions : Supplies environment "VLAB_MAX_SESSIONS" 100 settings.maxSessions

/-- An environment gives the settings that it supplies, if they are fitting. -/
theorem ofEnvironment_eq_valid_iff :
    ofEnvironment environment = .valid settings ↔
      settings.SuppliedBy environment ∧ settings.Fitting := by
  have shortest := field?_variables environment (.head _)
  have longest := field?_variables environment (.tail _ (.head _))
  have most := field?_variables environment (.tail _ (.tail _ (.head _)))
  rw [ofEnvironment, ofJson]
  simp only [Checked.map_eq, Checked.seq_eq, Checked.bind_eq_valid_iff,
    Checked.apply_eq_valid_iff, Checked.map_eq_valid_iff, checkWindow_eq_valid_iff,
    defaulting_atLeast_iff shortest (by decide : (0 : Int) ≤ 200),
    defaulting_atLeast_iff longest (by decide : (0 : Int) ≤ 700),
    defaulting_atLeast_iff most (by decide : (1 : Int) ≤ 100)]
  constructor
  · rintro ⟨_, ⟨_, _, ⟨_, _, ⟨_, ⟨low, notNegative⟩, rfl⟩, ⟨high, -⟩, rfl⟩, ⟨sessions, positive⟩,
      rfl⟩, rfl, ordered⟩
    exact ⟨⟨low, high, sessions⟩, notNegative, ordered, positive⟩
  · rintro ⟨⟨low, high, sessions⟩, notNegative, ordered, positive⟩
    have highest : 0 ≤ settings.latencyMax := Int.le_trans notNegative ordered
    exact ⟨settings, ⟨_, _, ⟨_, _, ⟨_, ⟨low, notNegative⟩, rfl⟩, ⟨high, highest⟩, rfl⟩,
      ⟨sessions, positive⟩, rfl⟩, rfl, ordered⟩

end Settings

end CyberRange
