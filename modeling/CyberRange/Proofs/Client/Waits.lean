import CyberRange.Proofs.Client.Failures
import CyberRange.Proofs.Decimal.Doubles

namespace CyberRange

/-! How long a call waits before it is tried again.

A wait is doubled up exactly, so it is the smaller one of two numbers, as long as there is a
double for the power of two that it is multiplied with.  From the limit on there is none, and
a call that would wait that often ends with a failure of its own.
-/

open Double Float.Model Float.Model.UnpackedFloat

section Powers

variable {exponent : Nat}

/-- A power of two with the parts that it has as a double. -/
def packedPower (exponent : Nat) : Float :=
  .ofModel (.pack (.finite .positive (2 ^ 52) (exponent - 52) (by decide)))

theorem canonical_power (exponent : Nat) : Canonical (2 ^ 52) (exponent - 52) where
  pos := by decide
  below := by decide
  least := by omega
  full := .inl (by decide)

theorem powerOfTwo_of_lt : ∀ exponent : Fin 53, powerOfTwo exponent = packedPower exponent := by
  decide +kernel

/-- A whole number of more digits than a double has is rounded, and a power of two not
changed by that. -/
theorem powerOfTwo_of_le (long : 53 ≤ exponent) :
    powerOfTwo exponent = packedPower exponent := by
  have wide : ¬ (2 ^ exponent < 2 ^ 53 ∧ 0 ≤ 22) := by
    have more := Nat.pow_le_pow_right (show 0 < 2 by decide) long
    omega
  have filled : 2 ^ exponent ≠ 0 := (Nat.two_pow_pos exponent).ne'
  have digits : (2 ^ exponent <<< 53) * 10 ^ 0 = 2 ^ 52 * 2 ^ (exponent + 1) := by
    rw [Nat.shiftLeft_eq]
    ring
  have point : (-53 + 0 : Int) = exponent - 52 - (exponent + 1 : Nat) := by omega
  have rounded : roundWithAccuracy .binary64 .positive (2 ^ exponent <<< 53 * 10 ^ 0) (-53 + 0)
      .exact = .finite .positive (2 ^ 52) (exponent - 52) (canonical_power exponent).pos := by
    rw [digits, point]
    exact (canonical_power exponent).roundWithAccuracy (exponent + 1)
  have belowLimit : ¬ Int.ofNat 0 > 2 ^ Format.binary64.exponentBits := by decide
  have aboveLimit :
      ¬ Int.ofNat 0 < -(2 ^ Format.binary64.exponentBits + ((2 ^ exponent).log2 : Int)) := by
    have bits : (2 : Int) ^ Format.binary64.exponentBits = 2048 := rfl
    have zero : Int.ofNat 0 = 0 := rfl
    omega
  have whole : 0 ≤ Int.ofNat 0 := le_refl 0
  change Float.ofScientific (2 ^ exponent) false 0 = _
  rw [Float.ofScientific, dif_neg wide]
  simp only [Float.Model.ofScientific, UnpackedFloat.ofScientific, dif_neg filled,
    Bool.false_eq_true, if_false, if_neg belowLimit, if_neg aboveLimit, if_pos whole,
    UnpackedFloat.mul]
  rw [packedPower, ← rounded]
  rfl

theorem positive_powerOfTwo (inRange : exponent < 1024) :
    Positive (powerOfTwo exponent) (2 ^ 52) (exponent - 52) := by
  have packed : powerOfTwo exponent = packedPower exponent := by
    by_cases short : exponent < 53
    · exact powerOfTwo_of_lt ⟨exponent, short⟩
    · exact powerOfTwo_of_le (by omega)
  refine ⟨canonical_power exponent, by omega, ?_⟩
  rw [packed]
  exact unpack_pack (canonical_power exponent) (by omega)

end Powers

section Wait

variable {base : Float} {mantissa attempt : Nat} {exponent : Int}

/-- Doubled up, a positive double stays exact, unless it gets too large for a double. -/
theorem mul_powerOfTwo (positive : Positive base mantissa exponent) (inRange : attempt < 1024) :
    (∃ digits power, Positive (base * powerOfTwo attempt) digits power ∧
      value (base * powerOfTwo attempt) = value base * 2 ^ attempt) ∨
    (base * powerOfTwo attempt).toModel.unpack = .infinity .positive ∧
      (2 : ℚ) ^ (1024 : ℤ) ≤ value base * 2 ^ attempt := by
  obtain ⟨digits, power, places, canonical, moved, point⟩ := positive.toCanonical.doubled attempt
  have doubled : value base * 2 ^ attempt = digits * 2 ^ power := by
    rw [positive.value_eq, mul_two_pow_eq moved point]
  have rounded : UnpackedFloat.mul .binary64 base.toModel.unpack
      (powerOfTwo attempt).toModel.unpack = .finite .positive digits power canonical.pos := by
    rw [positive.unpack, (positive_powerOfTwo inRange).unpack]
    simp only [UnpackedFloat.mul, moved, point]
    exact canonical.roundWithAccuracy places
  have product : (base * powerOfTwo attempt).toModel =
      .pack (.finite .positive digits power canonical.pos) := congrArg Float.Model.pack rounded
  rcases lt_or_ge 971 power with beyond | within
  · refine .inr ⟨by rw [product, unpack_pack_beyond beyond], ?_⟩
    rw [doubled]
    exact canonical.le_of_beyond beyond
  · have finite : Positive (base * powerOfTwo attempt) digits power :=
      ⟨canonical, within, by rw [product, unpack_pack canonical within]⟩
    exact .inl ⟨digits, power, finite, by rw [finite.value_eq, doubled]⟩

theorem positive_longestWait : Positive longestWait (30 * 2 ^ 48) (-48) where
  pos := by decide
  below := by decide
  least := by decide
  full := .inl (by decide)
  inRange := by decide
  unpack := rfl

theorem value_longestWait : value longestWait = 30 := by
  rw [positive_longestWait.value_eq]
  norm_num

/-- A wait is the smaller one of the doubled up one and the longest. -/
theorem exists_backoff (positive : Positive base mantissa exponent) (inRange : attempt < 1024) :
    ∃ wait, backoff attempt base = some wait ∧ wait.isFinite = true ∧
      value wait = min (value base * 2 ^ attempt) 30 := by
  have possible : ¬ exponentLimit ≤ attempt := by
    rw [exponentLimit]
    omega
  rw [backoff, if_neg possible]
  rcases mul_powerOfTwo positive inRange with ⟨digits, power, finite, doubled⟩ | ⟨infinite, large⟩
  · by_cases longer : longestWait < base * powerOfTwo attempt
    · have capped := (positive_longestWait.lt_iff finite).mp longer
      rw [value_longestWait, doubled] at capped
      refine ⟨longestWait, by simp [longer], positive_longestWait.isFinite, ?_⟩
      rw [value_longestWait, min_eq_right capped.le]
    · have shorter := mt (positive_longestWait.lt_iff finite).mpr longer
      rw [value_longestWait, doubled, not_lt] at shorter
      refine ⟨base * powerOfTwo attempt, by simp [longer], finite.isFinite, ?_⟩
      rw [doubled, min_eq_left shorter]
  · have longer := positive_longestWait.lt_infinity infinite
    have capped : (30 : ℚ) ≤ value base * 2 ^ attempt := by
      calc (30 : ℚ) ≤ 2 ^ (5 : ℤ) := by norm_num
        _ ≤ 2 ^ (1024 : ℤ) := zpow_le_zpow_right₀ one_le_two (by decide)
        _ ≤ value base * 2 ^ attempt := large
    refine ⟨longestWait, by simp [longer], positive_longestWait.isFinite, ?_⟩
    rw [value_longestWait, min_eq_right capped]

end Wait

namespace CallFault

/-- The failures that a call is meant to end with: those that it reports itself, those of the
connection, and an answer that cannot be decoded. -/
def isDeclared : CallFault → Bool
  | .unreachable .. | .timedOut .. | .api _ | .transport _ => true
  | .notDocument malformed =>
      match malformed.defect with
      | .tooDeep _ => false
      | _ => true
  | _ => false

/-- The failures of a content that could not be looked through. -/
def isUnread : CallFault → Bool
  | .unreadableError _ | .notDocument _ => true
  | _ => false

end CallFault

namespace Arrival

variable {policy : Policy} {reference : String} {arrival : Arrival} {response : Http.Response}
  {fault : CallFault}

theorem isDeclared_of_documentOf (tellable : response.content.isTellable = true)
    (read : ErrorReading.documentOf response = .error fault) : fault.isDeclared = true := by
  cases success : response.isSuccess with
  | false =>
      obtain ⟨error, reported, -⟩ := ErrorReading.errorOf_of_tellable tellable
      rw [ErrorReading.documentOf_failed success, reported] at read
      obtain rfl := Except.error.inj read
      rfl
  | true =>
      rw [ErrorReading.documentOf, if_pos success] at read
      split at read
      · contradiction
      · contradiction
      · rename_i malformed text content
        obtain rfl := Except.error.inj read
        rw [content, Http.Content.isTellable] at tellable
        rw [CallFault.isDeclared]
        exact tellable
      · obtain rfl := Except.error.inj read
        rfl

theorem isUnread_of_documentOf (untellable : response.content.isTellable = false)
    (read : ErrorReading.documentOf response = .error fault) : fault.isUnread = true := by
  cases success : response.isSuccess with
  | false =>
      obtain ⟨unread, reported⟩ := ErrorReading.errorOf_of_not_tellable untellable
      rw [ErrorReading.documentOf_failed success, reported] at read
      obtain rfl := Except.error.inj read
      rfl
  | true =>
      rw [ErrorReading.documentOf, if_pos success] at read
      split at read
      · contradiction
      · contradiction
      all_goals
        obtain rfl := Except.error.inj read
        rfl

/-- What an attempt comes to is a failure that it is meant to come to, if it can be told. -/
theorem fault_of_conclude (concluded : arrival.conclude policy reference = .error fault) :
    fault.isDeclared = true ∨ fault.isUnread = true ∧
      ∃ response, arrival = .ok response ∧ response.content.isTellable = false := by
  cases arrival with
  | error failure =>
      simp only [conclude] at concluded
      refine .inl ?_
      split at concluded
      · obtain rfl := Except.error.inj concluded
        rfl
      · split at concluded <;>
        · obtain rfl := Except.error.inj concluded
          rfl
  | ok response =>
      cases tellable : response.content.isTellable with
      | true => exact .inl (isDeclared_of_documentOf tellable concluded)
      | false => exact .inr ⟨isUnread_of_documentOf tellable concluded, response, rfl, tellable⟩

end Arrival

namespace Policy

variable {policy : Policy} {transport : Transport σ} {request : Http.Request} {reference : String}
  {state : σ} {left made waited : Nat} {trace : Trace σ Json}

/-- No outcome is waited out for which there is no wait. -/
theorem Course.waited_le
    (course : Course policy transport request reference left 0 state waited trace) :
    waited ≤ 1024 := by
  refine Nat.le_of_not_lt fun beyond => ?_
  have none : backoff (0 + 1024 : Nat) firstWait = none :=
    backoff_eq_none_iff.mpr (by decide)
  have missing : (Option.none : Option Float) ∈ trace.waits.map some := by
    rw [course.waits]
    exact List.mem_map.mpr ⟨1024, List.mem_range.mpr beyond, none⟩
  simp at missing

theorem one_le_attempts (allowed : 0 ≤ policy.maxRetries) : 1 ≤ policy.attempts := by
  rw [attempts]
  split <;> omega

/-- A call ends for want of a wait after exactly as many outcomes that may pass as there are
powers of two among the doubles, and one more. -/
theorem send_endless_iff (allowed : 0 ≤ policy.maxRetries) (transport : Transport σ)
    (reference : String) (request : Http.Request) (state : σ) :
    (policy.send transport reference (.ok request) state).result = .error .endlessWait ↔
      policy.retryEnabled = true ∧ 1024 < policy.maxRetries ∧
        ∀ number ≤ 1024, (transport.arrival request state number).isPassing = true := by
  have tries := one_le_attempts allowed
  have retries (enabled : policy.retryEnabled = true) :
      policy.attempts.toNat - 1 = policy.maxRetries.toNat := by
    rw [attempts, if_pos enabled]
    omega
  obtain ⟨waited, course⟩ := exists_course_send tries transport reference request state
  have most := course.waited_le
  by_cases verdict : policy.judge reference (policy.attempts.toNat - 1 - waited)
      (transport.arrival request state waited) = .again
  · have ends := course.ends
    rw [verdict] at ends
    obtain ⟨beyond, endless⟩ := ends
    obtain ⟨enabled, more, passing⟩ := judge_eq_again_iff.mp verdict
    rw [retries enabled] at more
    refine iff_of_true endless ⟨enabled, by omega, fun number early => ?_⟩
    rcases Nat.lt_or_eq_of_le early with before | rfl
    · exact (judge_eq_again_iff.mp (course.again number (by omega))).2.2
    · obtain rfl : waited = 1024 := by omega
      exact passing
  · refine iff_of_false (fun endless => ?_) (fun lasts => verdict ?_)
    · rw [course.result_eq verdict] at endless
      rcases Arrival.fault_of_conclude endless with declared | ⟨unread, -⟩ <;> contradiction
    · obtain ⟨enabled, many, passing⟩ := lasts
      rw [judge_eq_again_iff, retries enabled]
      exact ⟨enabled, by omega, passing waited most⟩

/-- The failures of a call are those that it is meant to end with, an endless wait, and the
response that it stops at being one that cannot be told. -/
theorem fault_of_send (tries : 1 ≤ policy.attempts) {fault : CallFault}
    (failed : (policy.send transport reference (.ok request) state).result = .error fault) :
    fault.isDeclared = true ∨ fault = .endlessWait ∨ fault.isUnread = true ∧
      ∃ number response,
        (policy.send transport reference (.ok request) state).requests.length = number + 1 ∧
        transport.arrival request state number = .ok response ∧
        response.content.isTellable = false := by
  obtain ⟨waited, course⟩ := exists_course_send tries transport reference request state
  by_cases verdict : policy.judge reference (policy.attempts.toNat - 1 - waited)
      (transport.arrival request state waited) = .again
  · have ends := course.ends
    rw [verdict] at ends
    exact .inr (.inl (Except.error.inj (failed.symm.trans ends.2)))
  · rw [course.result_eq verdict] at failed
    rcases Arrival.fault_of_conclude failed with declared | ⟨unread, response, same, untellable⟩
    · exact .inl declared
    · have count : (policy.send transport reference (.ok request) state).requests.length =
          waited + 1 := by
        rw [course.requests, List.length_replicate]
      exact .inr (.inr ⟨unread, waited, response, count, same, untellable⟩)

/-- A wait is the smaller one of the doubled up base and the longest wait, and waits do not get
shorter, up to the last power of two among the doubles.  After it there is no wait, and a call
that has to wait once more ends with that; nothing else of the waits makes a call fail. -/
theorem waits_capped_below_limit {base : Float} (finite : base.isFinite = true)
    (positive : 0 < base) :
    (∀ attempt : Nat, attempt < 1024 → ∃ wait, backoff attempt base = some wait ∧
      wait.isFinite = true ∧ value wait = min (value base * 2 ^ attempt) 30) ∧
    (∀ (earlier later : Nat) (short long : Float), earlier ≤ later →
      backoff earlier base = some short → backoff later base = some long →
      value short ≤ value long) ∧
    (∀ attempt : Nat, backoff attempt base = none ↔ 1024 ≤ attempt) ∧
    ∀ {σ : Type} (policy : Policy) (transport : Transport σ) (reference : String)
      (request : Http.Request) (state : σ), 0 ≤ policy.maxRetries →
      let trace := policy.send transport reference (.ok request) state
      (trace.result = .error .endlessWait ↔
        policy.retryEnabled = true ∧ 1024 < policy.maxRetries ∧
          ∀ number ≤ 1024, (transport.arrival request state number).isPassing = true) ∧
      ∀ fault, trace.result = .error fault →
        fault.isDeclared = true ∨ fault = .endlessWait ∨ fault.isUnread = true ∧
          ∃ number response, trace.requests.length = number + 1 ∧
            transport.arrival request state number = .ok response ∧
            response.content.isTellable = false := by
  obtain ⟨mantissa, exponent, parts⟩ := exists_positive finite positive
  have defined (attempt : Nat) : backoff attempt base = none ↔ 1024 ≤ attempt := by
    rw [backoff_eq_none_iff]
    omega
  have smaller (attempt : Nat) (wait : Float) (waits : backoff attempt base = some wait) :
      value wait = min (value base * 2 ^ attempt) 30 := by
    have inRange : attempt < 1024 := by
      refine Nat.lt_of_not_le fun beyond => ?_
      rw [(defined attempt).mpr beyond] at waits
      contradiction
    obtain ⟨same, found, -, value_eq⟩ := exists_backoff parts inRange
    obtain rfl := Option.some.inj (waits.symm.trans found)
    exact value_eq
  refine ⟨fun attempt inRange => exists_backoff parts inRange, ?_, defined, ?_⟩
  · intro earlier later short long order early late
    have more : (2 : ℚ) ^ earlier ≤ 2 ^ later := pow_le_pow_right₀ one_le_two order
    have filled : 0 ≤ value base := by
      rw [parts.value_eq]
      positivity
    rw [smaller earlier short early, smaller later long late]
    exact min_le_min_right 30 (mul_le_mul_of_nonneg_left more filled)
  · intro σ policy transport reference request state allowed
    exact ⟨send_endless_iff allowed transport reference request state,
      fun fault failed => fault_of_send (one_le_attempts allowed) failed⟩

/-- Half a second doubled up five times is waited, and not more than the longest wait after the
last power of two; a connection that is always refused is given up before that. -/
theorem waits_capped_below_limit_of_half :
    let policy : Policy :=
      { baseUrl := "http://localhost:8000", timeout := .int 30, retryEnabled := true,
        maxRetries := 1024 }
    let refused : Transport Unit := fun _ state =>
      (.error { kind := "ConnectError", message := "refused" }, state)
    let request : Http.Request := .create "GET" (.ofBase "http://localhost:8000") .empty
    firstWait.isFinite = true ∧ 0 < firstWait ∧
      (∃ wait, backoff 5 firstWait = some wait ∧ value wait = 16) ∧
      (∃ wait, backoff 1023 firstWait = some wait ∧ value wait = 30) ∧
      0 ≤ policy.maxRetries ∧
      (policy.send refused "/health" (.ok request) ()).result ≠ .error .endlessWait := by
  intro policy refused request
  have parts : Positive firstWait (2 ^ 52) (-53) :=
    ⟨⟨by decide, by decide, by decide, .inl (by decide)⟩, by decide, rfl⟩
  have half : value firstWait = 1 / 2 := by
    rw [parts.value_eq]
    norm_num
  have finite : firstWait.isFinite = true := rfl
  have positive : 0 < firstWait := lt_iff_lt_unpack.mpr rfl
  have allowed : 0 ≤ policy.maxRetries := by decide
  obtain ⟨capped, -, -, calls⟩ := waits_capped_below_limit finite positive
  obtain ⟨short, waited, -, short_eq⟩ := capped 5 (by decide)
  obtain ⟨long, last, -, long_eq⟩ := capped 1023 (by decide)
  obtain ⟨endless, -⟩ := calls policy refused "/health" request () allowed
  have enough : (30 : ℚ) ≤ 1 / 2 * 2 ^ 1023 := by
    calc (30 : ℚ) ≤ 1 / 2 * 2 ^ 6 := by norm_num
      _ ≤ 1 / 2 * 2 ^ 1023 := by
        gcongr
        · exact one_le_two
        · decide
  rw [half] at short_eq long_eq
  refine ⟨finite, positive, ⟨short, waited, short_eq.trans (by norm_num)⟩,
    ⟨long, last, long_eq.trans (min_eq_right enough)⟩, allowed, fun ended => ?_⟩
  obtain ⟨-, many, -⟩ := endless.mp ended
  exact absurd many (by decide)

/-- The limit does not keep the wait after the next attempt defined, and a call that is refused
that often ends without a failure of the connection. -/
theorem no_wait_at_limit :
    let policy : Policy :=
      { baseUrl := "http://localhost:8000", timeout := .int 30, retryEnabled := true,
        maxRetries := 1025 }
    let refused : Transport Unit := fun _ state =>
      (.error { kind := "ConnectError", message := "refused" }, state)
    let request : Http.Request := .create "GET" (.ofBase "http://localhost:8000") .empty
    backoff 1024 firstWait = none ∧
      (policy.send refused "/health" (.ok request) ()).result = .error .endlessWait := by
  intro policy refused request
  refine ⟨backoff_eq_none_iff.mpr (by decide), ?_⟩
  exact (send_endless_iff (by decide) refused "/health" request ()).mpr
    ⟨rfl, by decide, fun number _ => rfl⟩

end Policy

end CyberRange
