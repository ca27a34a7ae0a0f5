import CyberRange.Client.Query
import CyberRange.Client.Transport
import CyberRange.Proofs.Client.Answers
import Mathlib.Logic.Function.Iterate
import Mathlib.Order.Bounds.Basic

namespace CyberRange

/-! How many attempts a call makes, and which of them decides it.

The outcomes of a connection are counted from the first attempt on, whatever the client
makes of them.  `Course` says how far into them a call goes and is all that is ever proved
of the loop by induction; what a policy makes of an outcome depends on nothing but the
attempts that are left.
-/

/-- What an attempt comes to. -/
abbrev Arrival := Except TransportFault Http.Response

namespace Arrival

/-- Whether it may be another one next time: there was no connection, no answer in time,
or the answer of a gateway. -/
def isPassing : Arrival → Bool
  | .error fault => fault.isTransient
  | .ok response => Policy.isGatewayAnswer response

/-- What a call comes to that stops at it.  An answer is read; a failure that might have
passed is reported with the address, and any other one is handed on. -/
def conclude (policy : Policy) (reference : String) : Arrival → Except CallFault Json
  | .ok response => ErrorReading.documentOf response
  | .error fault =>
      let url := policy.bareUrl ++ reference
      if fault.isTimeout then
        .error (.timedOut ("Request to " ++ url ++ " timed out") policy.timeout (some url))
      else if fault.isUnreachable then
        .error (.unreachable ("Failed to connect to " ++ url) (some url) (some fault.kind))
      else .error (.transport fault)

end Arrival

namespace Transport

/-- The connection after a number of attempts with one request. -/
def after (transport : Transport σ) (request : Http.Request) (made : Nat) (state : σ) : σ :=
  (fun state => (transport request state).2)^[made] state

/-- The outcome of the attempt with a number, the first being number zero. -/
def arrival (transport : Transport σ) (request : Http.Request) (state : σ) (number : Nat) :
    Arrival :=
  (transport request (after transport request number state)).1

variable (transport : Transport σ) (request : Http.Request) (state : σ) (number : Nat)

theorem after_succ :
    after transport request (number + 1) state =
      after transport request number (transport request state).2 :=
  Function.iterate_succ_apply ..

theorem arrival_succ :
    arrival transport request state (number + 1) =
      arrival transport request (transport request state).2 number := by
  rw [arrival, after_succ, arrival]

end Transport

theorem backoff_eq_none_iff {attempt : Int} {base : Float} :
    backoff attempt base = none ↔ 1024 ≤ attempt := by
  unfold backoff
  split
  · rename_i beyond
    simpa [exponentLimit] using beyond
  · rename_i within
    simpa [exponentLimit] using within

namespace Policy

variable {policy : Policy} {transport : Transport σ} {request : Http.Request} {reference : String}
  {state : σ} {left made waited number : Nat} {arrival : Arrival} {trace : Trace σ Json}

/-- A policy asks again for an outcome that may pass, as long as it may; any other outcome
is what the call comes to. -/
theorem judge_eq (policy : Policy) (reference : String) (left : Nat) (arrival : Arrival) :
    policy.judge reference left arrival =
      if policy.retryEnabled && decide (0 < left) && arrival.isPassing then .again
      else .settled (arrival.conclude policy reference) := by
  cases arrival with
  | ok response =>
      have order : policy.retriesStatus response.status left =
          (policy.retryEnabled && decide (0 < left) && isGatewayAnswer response) := by
        rw [retriesStatus, isGatewayAnswer, Bool.and_right_comm]
      rw [judge, order]
      rfl
  | error fault =>
      simp only [judge, Arrival.isPassing, Arrival.conclude, retriesFault]
      cases timeout : fault.isTimeout <;> cases unreachable : fault.isUnreachable <;>
        simp [TransportFault.isTransient, giveUp, timeout, unreachable]

theorem judge_eq_again_iff :
    policy.judge reference left arrival = .again ↔
      policy.retryEnabled = true ∧ 0 < left ∧ arrival.isPassing = true := by
  rw [judge_eq]
  split <;> simp_all

/-- The course of a call that may make `left` more attempts after the next one and has made
some before: it waits out the first `waited` outcomes and comes to an end with the next, or
for want of a wait that long. -/
structure Course (policy : Policy) (transport : Transport σ) (request : Http.Request)
    (reference : String) (left made : Nat) (state : σ) (waited : Nat) (trace : Trace σ Json) :
    Prop where
  within : waited ≤ left
  again : ∀ number < waited,
    policy.judge reference (left - number) (transport.arrival request state number) = .again
  requests : trace.requests = List.replicate (waited + 1) request
  waits : trace.waits.map some =
    (List.range waited).map fun number => backoff (made + number : Nat) firstWait
  ends : match policy.judge reference (left - waited) (transport.arrival request state waited) with
    | .settled result => trace.result = result
    | .again => 1024 ≤ made + waited ∧ trace.result = .error .endlessWait
  state : trace.state = transport.after request (waited + 1) state

/-- The first outcome already ends a call. -/
theorem Course.here (requests : trace.requests = [request]) (waits : trace.waits = [])
    (state_eq : trace.state = (transport request state).2)
    (ends : match policy.judge reference left (transport request state).1 with
      | .settled result => trace.result = result
      | .again => 1024 ≤ made ∧ trace.result = .error .endlessWait) :
    Course policy transport request reference left made state 0 trace where
  within := Nat.zero_le left
  again _ early := absurd early (Nat.not_lt_zero _)
  requests := requests
  waits := by
    rw [waits]
    rfl
  ends := ends
  state := state_eq

/-- The first outcome is waited out, and the call goes on. -/
theorem Course.further {time : Float}
    (course : Course policy transport request reference left (made + 1)
      (transport request state).2 waited trace)
    (again : policy.judge reference (left + 1) (transport request state).1 = .again)
    (wait : backoff made firstWait = some time) :
    Course policy transport request reference (left + 1) made state (waited + 1)
      { trace with requests := request :: trace.requests, waits := time :: trace.waits } where
  within := Nat.succ_le_succ course.within
  again number early := by
    cases number with
    | zero => exact again
    | succ number =>
        rw [Nat.add_sub_add_right, Transport.arrival_succ]
        exact course.again number (Nat.lt_of_succ_lt_succ early)
  requests := by
    rw [course.requests]
    rfl
  waits := by
    have shifted (number : Nat) : made + 1 + number = made + (number + 1) := by omega
    simp only [List.map_cons, course.waits, List.range_succ_eq_map, List.map_map,
      Function.comp_def, Nat.succ_eq_add_one, shifted, Nat.add_zero, wait]
  ends := by
    have shifted : made + 1 + waited = made + (waited + 1) := by omega
    rw [Nat.add_sub_add_right, Transport.arrival_succ, ← shifted]
    exact course.ends
  state := course.state.trans (Transport.after_succ ..).symm

/-- Every call that may be attempted at all takes its course. -/
theorem exists_course (policy : Policy) (transport : Transport σ) (request : Http.Request)
    (reference : String) (left made : Nat) (state : σ) :
    ∃ waited, Course policy transport request reference left made state waited
      (policy.sendFrom transport reference request (left + 1) made state) := by
  -- over the attempts that are left; each one moves the arrivals and the waits by one
  induction left generalizing made state with
  | zero =>
      cases verdict : policy.judge reference 0 (transport request state).1 with
      | settled result =>
          refine ⟨0, .here ?_ ?_ ?_ ?_⟩ <;> simp only [sendFrom, verdict]
      | again => exact absurd (judge_eq_again_iff.mp verdict).2.1 (Nat.lt_irrefl 0)
  | succ left induction =>
      cases verdict : policy.judge reference (left + 1) (transport request state).1 with
      | settled result =>
          refine ⟨0, .here ?_ ?_ ?_ ?_⟩ <;> simp only [sendFrom, verdict]
      | again =>
          cases wait : backoff made firstWait with
          | none =>
              have beyond := backoff_eq_none_iff.mp wait
              refine ⟨0, .here ?_ ?_ ?_ ?_⟩ <;>
                simp only [sendFrom, verdict, wait, and_true]
              omega
          | some time =>
              obtain ⟨waited, course⟩ := induction (made + 1) (transport request state).2
              refine ⟨waited + 1, ?_⟩
              have more := course.further verdict wait
              simpa only [sendFrom, verdict, wait] using more

section Settled

variable (course : Course policy transport request reference left made state waited trace)
include course

theorem Course.result_eq (settled : policy.judge reference (left - waited)
    (transport.arrival request state waited) ≠ .again) :
    trace.result = (transport.arrival request state waited).conclude policy reference := by
  have ends := course.ends
  rw [judge_eq] at settled ends
  split at settled
  · contradiction
  · rename_i final
    rw [if_neg final] at ends
    exact ends

end Settled

theorem send_of_attempts_lt_one (none : policy.attempts < 1) (transport : Transport σ)
    (reference : String) (sent : Except CallFault Http.Request) (state : σ) :
    policy.send transport reference sent state =
      { result := .error .noAttempt, requests := [], waits := [], state } := by
  cases sent with
  | error fault => rw [send, if_pos none]
  | ok request =>
      have zero : policy.attempts.toNat = 0 := by omega
      rw [send, zero, sendFrom]

/-- A request that may be sent at all takes its course, with all attempts before it. -/
theorem exists_course_send (tries : 1 ≤ policy.attempts) (transport : Transport σ)
    (reference : String) (request : Http.Request) (state : σ) :
    ∃ waited, Course policy transport request reference (policy.attempts.toNat - 1) 0 state waited
      (policy.send transport reference (.ok request) state) := by
  have all : policy.attempts.toNat = policy.attempts.toNat - 1 + 1 := by omega
  rw [send, all]
  exact exists_course ..

end Policy

end CyberRange
