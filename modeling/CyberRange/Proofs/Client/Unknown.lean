import CyberRange.Proofs.Client.Equivalence
import CyberRange.Proofs.Registry.Steps

namespace CyberRange.SessionCall

/-! Calls about a session that there is none of.

If its id is spelled as one segment of a path, the service looks for just that id, and
a call with it is refused and begins nothing.  An id that is not spelled so may be read
as another one, and then the call does to that session whatever it was meant to do.
-/

open Registry (Response)

variable {policy : Policy} {call : SessionCall} {desk after : Desk} {now : Timestamp}
  {id : String}

/-- The client says that there is no session with the given id, unless it was sent a line
that is too long for any session. -/
inductive ReportsUnknown (id : String) (call : SessionCall) : Except CallFault Reply → Prop where
  | notFound {error} (fits : call.isTooLong = false) (kind : error.kind = .notFound)
      (status : error.status = 404) (details : error.details = .object [("session_id", .text id)]) :
      ReportsUnknown id call (.error (.api error))
  | tooLong {error} (long : call.isTooLong = true) (kind : error.kind = .validation)
      (status : error.status = 422) :
      ReportsUnknown id call (.error (.api error))

/-- Used directly, a registry refuses an operation on a session it does not have. -/
theorem apply_unknown (absent : id ∉ desk.registry.sessionIds) (addressed : call.id? = some id)
    (now : Timestamp) :
    desk.apply now call.operation = (.error (.unknownSession id), desk) := by
  rcases desk.registry.get_cases id with ⟨member, -⟩ | ⟨-, missing⟩
  · exact absurd member absent
  · cases call with
    | create | list => simp [id?] at addressed
    | get other | execute other line | history other direction | reset other | delete other =>
        obtain rfl : other = id := by simpa [id?] using addressed
        simp only [operation, Desk.apply, Registry.submit, Registry.navigate, Registry.reset,
          Registry.delete, missing, Desk.settle, Except.map]

theorem direct_unknown (absent : id ∉ desk.registry.sessionIds) (addressed : call.id? = some id)
    (now : Timestamp) :
    call.direct now desk =
      (if call.isTooLong then none else some (.error (.unknownSession id)), desk) := by
  rw [direct, apply_unknown absent addressed]
  split <;> rfl

theorem SameAnswer.reportsUnknown {result : Except CallFault Reply}
    (same : SameAnswer after call
      (if call.isTooLong then none else some (.error (.unknownSession id))) result) :
    ReportsUnknown id call result := by
  cases long : call.isTooLong with
  | false =>
      rw [long] at same
      cases same with
      | unknown kind status details => exact .notFound long kind status details
  | true =>
      rw [long] at same
      cases same with
      | tooLong above kind status => exact .tooLong long kind status

/-- A call with the id of no session is reported as such and leaves the service as it is. -/
theorem unknown_session_reported (reaches : policy.ReachesRoot) (literal : IsLiteralId id)
    (absent : id ∉ desk.registry.sessionIds) (addressed : call.id? = some id) (now : Timestamp) :
    let trace := call.call.perform policy (Service.connection now) desk.served
    ReportsUnknown id call trace.result ∧ trace.state = desk.served := by
  have spelled : ∀ other, call.id? = some other → IsLiteralId other := by
    intro other found
    rw [addressed] at found
    rwa [← Option.some.inj found]
  obtain ⟨state, same⟩ := perform_call reaches spelled now desk
  rw [direct_unknown absent addressed] at state same
  exact ⟨same.reportsUnknown, state⟩

/-- An id with a letter that goes over the line escaped and with signs that mean nothing
where they stand. -/
theorem unknown_session_reported_of_signs :
    let policy : Policy :=
      { baseUrl := "http://localhost:8000", timeout := .int 30, retryEnabled := false,
        maxRetries := 0 }
    let registry : Registry :=
      { capacity := 1, capacity_pos := by decide, latency := .instant, sessions := [] }
    let desk := (Desk.apply default .create { registry, ids := .fresh }).2
    let id := "é b:%&4"
    let trace := (SessionCall.reset id).call.perform policy (Service.connection default) desk.served
    policy.ReachesRoot ∧ IsLiteralId id ∧ id ∉ desk.registry.sessionIds ∧
      ReportsUnknown id (.reset id) trace.result ∧ trace.state = desk.served := by
  intro policy registry desk id
  have reaches : policy.ReachesRoot := ⟨by decide +kernel, by decide⟩
  have literal : IsLiteralId id :=
    { filled := by decide, clean := by decide, noQuery := by decide, noFragment := by decide
      noControl := by decide, noEscape := by decide, noStep := by decide, noReturn := by decide
      short := by decide }
  have absent : id ∉ desk.registry.sessionIds := by decide +kernel
  exact ⟨reaches, literal, absent, unknown_session_reported reaches literal absent rfl default⟩

/-- What follows a question mark is not read as a part of the id: a call with the id of no
session deletes one. -/
theorem unknown_session_deletes_another :
    let policy : Policy :=
      { baseUrl := "http://localhost:8000", timeout := .int 30, retryEnabled := false,
        maxRetries := 0 }
    let registry : Registry :=
      { capacity := 1, capacity_pos := by decide, latency := .instant, sessions := [] }
    let desk := (Desk.apply default .create { registry, ids := .fresh }).2
    let id := IdSource.numbered 1 ++ "?"
    let trace := (SessionCall.delete id).call.perform policy (Service.connection default) desk.served
    policy.ReachesRoot ∧ id ∉ desk.registry.sessionIds ∧
      ¬ ReportsUnknown id (.delete id) trace.result ∧
      desk.registry.sessionIds = [IdSource.numbered 1] ∧ Entries.keys trace.state.sessions = [] := by
  intro policy registry desk id trace
  have reaches : policy.ReachesRoot := ⟨by decide +kernel, by decide⟩
  have answered : trace.result.isOk = true := by decide +kernel
  refine ⟨reaches, by decide +kernel, fun reported => ?_, by decide +kernel, by decide +kernel⟩
  cases result : trace.result with
  | error fault =>
      rw [result] at answered
      contradiction
  | ok reply =>
      rw [result] at reported
      cases reported

end CyberRange.SessionCall
