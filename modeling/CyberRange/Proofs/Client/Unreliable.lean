import CyberRange.Proofs.Client.Requests
import CyberRange.Proofs.Client.Answers
import CyberRange.Proofs.Service.Growth
import Mathlib.Logic.Function.Iterate

namespace CyberRange

/-! Calls over a connection that loses requests and answers.

The client cannot tell a request that did not arrive from an answer that did not, and
sends either again, whatever the request is for.  The service knows nothing of a request
it has had before, so it carries out every one that arrives: once for each answer that was
lost and asked for again, and once more for the last.
-/

/-- What becomes of an attempt: the request does not arrive, or it is carried out and its
answer arrives, or something else arrives in the place of the answer. -/
inductive Fate where
  | undelivered (fault : TransportFault)
  | answered
  | lost (instead : Except TransportFault Http.Response)

def Fate.isLost : Fate → Bool
  | .lost _ => true
  | _ => false

structure Attempt where
  moment : Timestamp
  fate : Fate

/-- What becomes of the attempts to come, by their number. -/
abbrev Schedule := Nat → Attempt

/-- A service behind a connection, with the number of the attempts made over it and of
those that the service has carried out. -/
structure Link where
  service : Service
  made : Nat
  delivered : Nat

namespace Schedule

def connection (schedule : Schedule) : Transport Link :=
  fun request link =>
    let attempt := schedule link.made
    let (response, service) := link.service.handle attempt.moment request
    let arrived : Link := { service, made := link.made + 1, delivered := link.delivered + 1 }
    match attempt.fate with
    | .undelivered fault => (.error fault, { link with made := link.made + 1 })
    | .answered => (.ok response, arrived)
    | .lost instead => (instead, arrived)

/-- How many of the first attempts have had their answers lost. -/
def lost (schedule : Schedule) (made : Nat) : Nat :=
  (List.range made).countP fun number => (schedule number).fate.isLost

/-- The link that a call leaves behind, from a service that nothing was sent to before. -/
def after (schedule : Schedule) (policy : Policy) (service : Service) (call : Call) : Link :=
  (call.perform policy schedule.connection { service, made := 0, delivered := 0 }).state

/-- How many lost answers of a call were followed by another attempt: the last attempt is
followed by none. -/
def retried (schedule : Schedule) (link : Link) : Nat :=
  schedule.lost (link.made - 1)

end Schedule

namespace Policy

variable {policy : Policy} {transport : Transport σ} {request : Http.Request} {state : σ}
  {Holds : σ → Prop}

theorem sendFrom_invariant (attempt : ∀ state, Holds state → Holds (transport request state).2)
    (reference : String) (left made : Nat) (start : Holds state) :
    Holds (policy.sendFrom transport reference request left made state).state := by
  induction left generalizing made state with
  | zero => exact start
  | succ left induction =>
      have next := attempt state start
      cases verdict : policy.judge reference left (transport request state).1 with
      | settled result => simpa only [sendFrom, verdict] using next
      | again =>
          cases wait : backoff made firstWait with
          | none => simpa only [sendFrom, verdict, wait] using next
          | some time => simpa only [sendFrom, verdict, wait] using induction (made + 1) next

end Policy

namespace Schedule

variable {schedule : Schedule} {policy : Policy} {request : Http.Request} {reference : String}
  {link : Link} {service : Service} {call : Call}

theorem lost_succ (schedule : Schedule) (made : Nat) :
    schedule.lost (made + 1) =
      schedule.lost made + if (schedule made).fate.isLost then 1 else 0 := by
  rw [lost, List.range_succ, List.countP_append, List.countP_singleton]
  rfl

@[simp] theorem made_connection (schedule : Schedule) (request : Http.Request) (link : Link) :
    (schedule.connection request link).2.made = link.made + 1 := by
  cases fate : (schedule link.made).fate <;> simp only [connection, fate]

theorem delivered_connection_le (schedule : Schedule) (request : Http.Request) (link : Link) :
    (schedule.connection request link).2.delivered ≤ link.delivered + 1 := by
  cases fate : (schedule link.made).fate <;> simp [connection, fate]

/-- What is preserved whenever the service has handled a request once more is preserved by
an attempt. -/
theorem connection_invariant {Holds : Nat → Service → Prop}
    (handled : ∀ now times service, Holds times service →
      Holds (times + 1) (Service.handle now request service).2)
    (link : Link) (before : Holds link.delivered link.service) :
    Holds (schedule.connection request link).2.delivered
      (schedule.connection request link).2.service := by
  have arrived := handled (schedule link.made).moment _ _ before
  cases fate : (schedule link.made).fate with
  | undelivered fault => simpa only [connection, fate] using before
  | answered | lost instead => simpa only [connection, fate] using arrived

/-- An attempt that is followed by another one was not answered by the service. -/
theorem delivered_le_of_again {left : Nat} (known : link.delivered ≤ schedule.lost link.made)
    (again : policy.judge reference left (schedule.connection request link).1 = .again) :
    (schedule.connection request link).2.delivered ≤ schedule.lost (link.made + 1) := by
  rw [lost_succ]
  cases fate : (schedule link.made).fate with
  | undelivered fault =>
      simp only [connection, fate]
      exact Nat.le_add_right_of_le known
  | answered =>
      have direct := Service.isGatewayAnswer_handle (schedule link.made).moment request link.service
      simp only [connection, fate, Policy.judge_of_answer direct] at again
      contradiction
  | lost instead =>
      simp only [connection, fate, Fate.isLost, if_true]
      exact Nat.add_le_add_right known 1

/-- A request has been carried out once for each lost answer that was followed by another
attempt, and once more at most. -/
theorem delivered_sendFrom (reference : String) (left made : Nat)
    (known : link.delivered ≤ schedule.lost link.made) :
    let last := (policy.sendFrom schedule.connection reference request left made link).state
    last.delivered ≤ schedule.retried last + 1 := by
  -- over the attempts that are left: none of those before was answered, so whatever was
  -- delivered until now was lost
  induction left generalizing made link with
  | zero =>
      simp only [Policy.sendFrom, retried]
      cases before : link.made with
      | zero =>
          rw [before] at known
          exact Nat.le_succ_of_le known
      | succ made =>
          rw [before, lost_succ] at known
          rw [Nat.add_sub_cancel]
          split at known <;> omega
  | succ left induction =>
      have once : (schedule.connection request link).2.delivered ≤
          schedule.retried (schedule.connection request link).2 + 1 := by
        rw [retried, made_connection, Nat.add_sub_cancel]
        exact (delivered_connection_le ..).trans (Nat.add_le_add_right known 1)
      cases verdict : policy.judge reference left (schedule.connection request link).1 with
      | settled result => simpa only [Policy.sendFrom, verdict] using once
      | again =>
          cases wait : backoff made firstWait with
          | none => simpa only [Policy.sendFrom, verdict, wait] using once
          | some time =>
              have unanswered := delivered_le_of_again known verdict
              rw [← made_connection schedule request] at unanswered
              simpa only [Policy.sendFrom, verdict, wait] using induction (made + 1) unanswered

theorem delivered_after (schedule : Schedule) (policy : Policy) (service : Service) (call : Call) :
    (schedule.after policy service call).delivered ≤
      schedule.retried (schedule.after policy service call) + 1 := by
  have start : (0 : Nat) ≤ schedule.lost 0 := Nat.zero_le _
  rw [after, Call.perform]
  cases policy.request call.method call.reference call.parameters call.document with
  | ok request => exact delivered_sendFrom call.reference policy.attempts.toNat 0 start
  | error fault =>
      simp only [Policy.send, Trace.andThen]
      split <;> exact Nat.zero_le _

/-- What is preserved whenever the service has handled the request of a call once more
holds after the call, of the number of times that it has. -/
theorem after_invariant {Holds : Nat → Service → Prop} (start : Holds 0 service)
    (handled : ∀ request,
      policy.request call.method call.reference call.parameters call.document = .ok request →
      ∀ now times service, Holds times service →
        Holds (times + 1) (Service.handle now request service).2) :
    Holds (schedule.after policy service call).delivered
      (schedule.after policy service call).service := by
  rw [after, Call.perform]
  cases sent : policy.request call.method call.reference call.parameters call.document with
  | ok request =>
      have attempt : ∀ link : Link, Holds link.delivered link.service →
          Holds (schedule.connection request link).2.delivered
            (schedule.connection request link).2.service :=
        connection_invariant (handled request sent)
      exact Policy.sendFrom_invariant attempt call.reference policy.attempts.toNat 0 start
  | error fault =>
      simp only [Policy.send, Trace.andThen]
      split <;> exact start

theorem recalled_after (schedule : Schedule) (policy : Policy) (service : Service) (id : String)
    (direction : Direction) :
    let link := schedule.after policy service (.history id (.text direction.name))
    ∃ other, ∃ steps ≤ link.delivered, link.service.sessions =
      Entries.adjust other (Session.recalled direction)^[steps] service.sessions := by
  obtain ⟨other, moves⟩ : ∃ other, ∀ request,
      policy.request "GET" ("/sessions/" ++ id ++ "/history")
        [("direction", .text direction.name)] .null = .ok request →
      ∀ now service, ((service : Service).handle now request).2.sessions = service.sessions ∨
        (service.handle now request).2.sessions =
          Entries.adjust other (Session.recalled direction) service.sessions := by
    cases sent : policy.request "GET" ("/sessions/" ++ id ++ "/history")
        [("direction", .text direction.name)] .null with
    | error fault => exact ⟨"", fun _ impossible => nomatch impossible⟩
    | ok request =>
        obtain ⟨method, url⟩ := eq_of_request sent
        have get : request.method = "GET" := method.trans (by decide +kernel)
        have given : request.url.queryItems = [("direction", direction.name)] := by
          rw [url]
          exact queryItems_address_direction policy _ direction
        obtain ⟨other, moves⟩ := Service.exists_recalled_handle get given
        refine ⟨other, fun found same => ?_⟩
        rw [← Except.ok.inj same]
        exact moves
  let Holds (times : Nat) (later : Service) : Prop :=
    ∃ steps ≤ times, later.sessions =
      Entries.adjust other (Session.recalled direction)^[steps] service.sessions
  have start : Holds 0 service := ⟨0, Nat.le_refl 0, (Entries.adjust_id other _).symm⟩
  refine ⟨other, after_invariant start fun request sent now times later before => ?_⟩
  obtain ⟨steps, few, moved⟩ := before
  rcases moves request sent now later with same | further
  · exact ⟨steps, Nat.le_succ_of_le few, same.trans moved⟩
  · refine ⟨steps + 1, Nat.succ_le_succ few, ?_⟩
    rw [further, moved, Entries.adjust_adjust, Function.iterate_succ']
    rfl

theorem count_after (schedule : Schedule) (policy : Policy) (service : Service) (call : Call)
    (id line : String) :
    let link := schedule.after policy service call
    (Session.linesIn link.service.sessions id).count line ≤
      (Session.linesIn service.sessions id).count line + link.delivered := by
  let Holds (times : Nat) (later : Service) : Prop :=
    (Session.linesIn later.sessions id).count line ≤
      (Session.linesIn service.sessions id).count line + times
  have start : Holds 0 service := Nat.le_refl _
  refine after_invariant start fun request sent now times later before => ?_
  have once := (later.addsOne_handle now request id).count_le line
  exact once.trans (Nat.succ_le_succ before)

theorem length_after (schedule : Schedule) (policy : Policy) (service : Service) (call : Call) :
    let link := schedule.after policy service call
    link.service.sessions.length ≤ service.sessions.length + link.delivered := by
  let Holds (times : Nat) (later : Service) : Prop :=
    later.sessions.length ≤ service.sessions.length + times
  have start : Holds 0 service := Nat.le_refl _
  refine after_invariant start fun request sent now times later before => ?_
  exact (later.length_handle now request).trans (Nat.succ_le_succ before)

/-- A call is carried out, and has its effect, once for each lost answer that the client has
asked for again and once more at most: a line is recorded, a session registered or a cursor
moved no more often than that, and no more than once if no answer was lost. -/
theorem effects_bounded_by_lost_answers (schedule : Schedule) (policy : Policy)
    (service : Service) :
    (∀ id command,
      let link := schedule.after policy service (.execute id command)
      let most := schedule.retried link + 1
      link.delivered ≤ most ∧ ∀ other line,
        (Session.linesIn link.service.sessions other).count line ≤
          (Session.linesIn service.sessions other).count line + most) ∧
    (let link := schedule.after policy service .createSession
      let most := schedule.retried link + 1
      link.delivered ≤ most ∧
        link.service.sessions.length ≤ service.sessions.length + most) ∧
    ∀ id direction,
      let link := schedule.after policy service (.history id (.text (Direction.name direction)))
      let most := schedule.retried link + 1
      link.delivered ≤ most ∧ ∃ other, ∃ steps ≤ most, link.service.sessions =
        Entries.adjust other (Session.recalled direction)^[steps] service.sessions := by
  refine ⟨fun id command => ?_, ?_, fun id direction => ?_⟩
  · have few := delivered_after schedule policy service (.execute id command)
    have recorded := count_after schedule policy service (.execute id command)
    exact ⟨few, fun other line => (recorded other line).trans (Nat.add_le_add_left few _)⟩
  · have few := delivered_after schedule policy service .createSession
    have registered := length_after schedule policy service .createSession
    exact ⟨few, registered.trans (Nat.add_le_add_left few _)⟩
  · have few := delivered_after schedule policy service (.history id (.text direction.name))
    obtain ⟨other, steps, taken, moved⟩ := recalled_after schedule policy service id direction
    exact ⟨few, other, steps, taken.trans few, moved⟩

/-- The first answer is lost and the second one arrives: each of the calls has its effect
twice. -/
theorem effects_repeat_with_lost_answer :
    let policy : Policy :=
      { baseUrl := "http://localhost:8000", timeout := .int 30, retryEnabled := true,
        maxRetries := 1 }
    let timeout : TransportFault := { kind := "ReadTimeout", message := "" }
    let schedule : Schedule := fun number =>
      { moment := default, fate := if number = 0 then .lost (.error timeout) else .answered }
    let registry : Registry :=
      { capacity := 3, capacity_pos := by decide, latency := .instant, sessions := [] }
    let id := IdSource.numbered 1
    let operations := [Registry.Operation.create, .submit id "ls", .submit id "pwd"].map
      fun operation => ((default : Timestamp), operation)
    let desk := (Desk.run operations { registry, ids := .fresh }).2
    let service : Service := { provider := .shared desk.registry, ids := desk.ids }
    let executed := (schedule.after policy service (.execute id (.text "whoami"))).service
    let created := (schedule.after policy service .createSession).service
    let recalled := (schedule.after policy service (.history id (.text "up"))).service
    let cursor := fun service : Service => (Entries.get? id service.sessions).map
      fun session => session.terminal.processor.history.cursor
    Session.linesIn service.sessions id = ["ls", "pwd"] ∧
      Session.linesIn executed.sessions id = ["ls", "pwd", "whoami", "whoami"] ∧
      service.sessions.length = 1 ∧ created.sessions.length = 3 ∧
      cursor service = some 2 ∧ cursor recalled = some 0 := by
  decide +kernel

end Schedule

end CyberRange
