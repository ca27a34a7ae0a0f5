import CyberRange.Client.Call
import CyberRange.Service.Handler

namespace CyberRange

/-! What a call comes to when its first attempt is answered, and how the refusals of
the service are read.  Whatever the service answers, it is not taken for a gateway. -/

namespace Policy

variable {policy : Policy} {transport : Transport σ} {request : Http.Request}
  {response : Http.Response} {state next : σ}

/-- Whether another attempt may follow an answer. -/
def isGatewayAnswer (response : Http.Response) : Bool :=
  gatewayStatuses.contains response.status

theorem judge_of_answer (direct : isGatewayAnswer response = false) (policy : Policy)
    (reference : String) (left : Nat) :
    policy.judge reference left (.ok response) = .settled (ErrorReading.documentOf response) := by
  have settles : policy.retriesStatus response.status left = false := by
    rw [isGatewayAnswer] at direct
    rw [retriesStatus, direct, Bool.and_false, Bool.false_and]
  simp only [judge, settles, Bool.false_eq_true, if_false]

/-- An answer that does not come from a gateway decides a call at its first attempt. -/
theorem send_of_answer (tries : 1 ≤ policy.attempts)
    (answered : transport request state = (.ok response, next))
    (direct : isGatewayAnswer response = false) (reference : String) :
    policy.send transport reference (.ok request) state =
      { result := ErrorReading.documentOf response, requests := [request], waits := [],
        state := next } := by
  obtain ⟨left, more⟩ : ∃ left, policy.attempts.toNat = left + 1 :=
    ⟨policy.attempts.toNat - 1, by omega⟩
  simp only [send, more, sendFrom, answered, judge_of_answer direct]

end Policy

namespace Service

variable {request : Http.Request}

theorem isGatewayAnswer_refuse (fault : RegistryFault) :
    Policy.isGatewayAnswer (refuse fault) = false := by
  cases fault <;> rfl

theorem isGatewayAnswer_report (issues : List Issue) :
    Policy.isGatewayAnswer (report issues) = false := by
  rw [report]
  split <;> rfl

theorem isGatewayAnswer_refusedContent {task : Task} {response : Http.Response}
    (refused : refusedContent request task = some response) :
    Policy.isGatewayAnswer response = false := by
  have content : ∀ content, refuseContent content = some response →
      Policy.isGatewayAnswer response = false := by
    intro content refused
    cases content with
    | empty | document value | text text => simp [refuseContent] at refused
    | malformed malformed text =>
        simp only [refuseContent] at refused
        split at refused <;> obtain rfl := Option.some.inj refused
        · rfl
        · rfl
        · exact isGatewayAnswer_report _
  rw [refusedContent] at refused
  split at refused
  · exact content _ refused
  · contradiction

theorem isGatewayAnswer_ofOutage (outage : Outage) :
    Policy.isGatewayAnswer (Refusal.ofOutage outage).response = false := by
  rw [Refusal.ofOutage]
  split
  · rfl
  · split <;> rfl

theorem isGatewayAnswer_carryOut (now : Timestamp) (registry : Registry) (order : Order)
    (service : Service) :
    Policy.isGatewayAnswer (service.carryOut now registry order).1 = false := by
  cases order with
  | list => rfl
  | create | describe | delete | execute | recallLine | reset =>
      simp only [carryOut]
      split
      · exact isGatewayAnswer_refuse _
      · rfl

/-- What the service says itself is never taken for the answer of a gateway. -/
theorem isGatewayAnswer_handle (now : Timestamp) (request : Http.Request) (service : Service) :
    Policy.isGatewayAnswer (service.handle now request).1 = false := by
  cases route : Route.ofRequest request.method request.url.path with
  | nowhere | wrongMethod | elsewhere path =>
      simp only [handle, route]
      rfl
  | found endpoint =>
      cases endpoint with
      | page page =>
          simp only [handle, route]
          rfl
      | task task =>
          simp only [handle, route, serve]
          split
          · rename_i response refused
            exact isGatewayAnswer_refusedContent refused
          · cases service.provider with
            | uninitialized => rfl
            | failing outage => exact isGatewayAnswer_ofOutage outage
            | shared registry =>
                simp only [Provider.get, perform]
                split
                · exact isGatewayAnswer_report _
                · exact isGatewayAnswer_carryOut ..

end Service

namespace ErrorReading

theorem documentOf_document {status : Int} (success : 200 ≤ status ∧ status ≤ 299) (value : Json) :
    documentOf (.document status value) = .ok value := by
  have succeeds : (Http.Response.document status value).isSuccess = true := by
    rw [Http.Response.isSuccess, Bool.and_eq_true, decide_eq_true_eq, decide_eq_true_eq]
    exact success
  rw [documentOf, if_pos succeeds]
  rfl

theorem documentOf_unknownSession (id : String) :
    ∃ error, documentOf (Refusal.unknownSession id).response = .error (.api error) ∧
      error.kind = .notFound ∧ error.status = 404 ∧
      error.details = .object [("session_id", .text id)] :=
  ⟨_, rfl, rfl, rfl, rfl⟩

theorem documentOf_sessionLimit (capacity : Int) :
    ∃ error, documentOf (Refusal.sessionLimit capacity).response = .error (.api error) ∧
      error.kind = .conflict ∧ error.status = 409 ∧
      error.details.field? "max_sessions" = some (.int capacity) :=
  ⟨_, rfl, rfl, rfl, rfl⟩

theorem documentOf_badValue (message : String) :
    ∃ error, documentOf (Refusal.badValue message).response = .error (.api error) ∧
      error.kind = .plain ∧ error.status = 400 ∧ error.message = message :=
  ⟨_, rfl, rfl, rfl, rfl⟩

/-- An overlong line is reported as an issue in the data of its request. -/
theorem documentOf_tooLong (limit : Nat) (line : String) :
    ∃ error, documentOf (Service.report
        [{ problem := .tooLong limit, place := [.key "body", .key "command"], input := .text line }]) =
      .error (.api error) ∧ error.kind = .validation ∧ error.status = 422 :=
  ⟨_, rfl, rfl, rfl⟩

end ErrorReading

end CyberRange
