import CyberRange.Proofs.Client.Direct
import CyberRange.Proofs.Client.Requests

namespace CyberRange.SessionCall

/-! How the calls about sessions reach the service: the request of each, the task that
is found at its path, and the data that are read from it. -/

variable {policy : Policy} {call : SessionCall} {desk : Desk} {now : Timestamp} {id : String}
  {request : Http.Request}

/-- What a call asks the service to do. -/
def task : SessionCall → Task
  | .create => .create
  | .list => .list
  | .get id => .describe id
  | .execute id _ => .execute id
  | .history id _ => .recallLine id
  | .reset id => .reset id
  | .delete id => .delete id

def items : SessionCall → List (String × String)
  | .history _ direction => [("direction", direction.name)]
  | _ => []

def order : SessionCall → Service.Order
  | .create => .create
  | .list => .list
  | .get id => .describe id
  | .execute id line => .execute id line
  | .history id direction => .recallLine id direction
  | .reset id => .reset id
  | .delete id => .delete id

theorem isLiteralReference (literal : ∀ id, call.id? = some id → IsLiteralId id) :
    IsLiteralReference call.call.reference := by
  have bare : ∀ {id}, IsLiteralId id → IsLiteralReference ("/sessions/" ++ id) := by
    intro id own
    have below : IsLiteralReference ("/sessions/" ++ id ++ "") :=
      isLiteralReference_below own (by decide)
    rwa [String.append_empty] at below
  cases call with
  | create | list => exact isLiteralReference_sessions
  | get id | delete id => exact bare (literal id rfl)
  | execute id line => exact isLiteralReference_below (literal id rfl) (by decide)
  | history id direction => exact isLiteralReference_below (literal id rfl) (by decide)
  | reset id => exact isLiteralReference_below (literal id rfl) (by decide)

/-- The service finds the task of a call at its path. -/
theorem route (literal : ∀ id, call.id? = some id → IsLiteralId id) :
    Route.ofRequest call.call.method call.call.reference = .found (.task call.task) := by
  have sessions : Resource.ofPath "/sessions" = some .sessions := by decide
  cases call with
  | create => exact Route.ofRequest_of_endpoint sessions rfl
  | list => exact Route.ofRequest_of_endpoint sessions rfl
  | get id | delete id =>
      exact Route.ofRequest_of_endpoint (Resource.ofPath_session (literal id rfl).toIsSegment) rfl
  | execute id line =>
      exact Route.ofRequest_of_endpoint (Resource.ofPath_execution (literal id rfl).toIsSegment) rfl
  | history id direction =>
      exact Route.ofRequest_of_endpoint (Resource.ofPath_history (literal id rfl).toIsSegment) rfl
  | reset id =>
      exact Route.ofRequest_of_endpoint (Resource.ofPath_renewal (literal id rfl).toIsSegment) rfl

theorem toUpper_method (call : SessionCall) : call.call.method.toUpper = call.call.method := by
  have get : "GET".toUpper = "GET" := by decide +kernel
  have post : "POST".toUpper = "POST" := by decide +kernel
  have delete : "DELETE".toUpper = "DELETE" := by decide +kernel
  cases call with
  | list | get | history => exact get
  | create | execute | reset => exact post
  | delete => exact delete

theorem queryItems_call (root : policy.base.target = ['/'])
    (literal : IsLiteralReference call.call.reference) :
    (policy.address call.call.reference call.call.parameters).queryItems = call.items := by
  cases call with
  | history id direction =>
      exact queryItems_address_direction policy ("/sessions/" ++ id ++ "/history") direction
  | create | list | get | execute | reset | delete => exact queryItems_address_nil root literal

theorem request_call (reaches : policy.ReachesRoot)
    (literal : ∀ id, call.id? = some id → IsLiteralId id) :
    ∃ request, policy.request call.call.method call.call.reference call.call.parameters
          call.call.document = .ok request ∧
      request.method = call.call.method ∧ request.url.path = call.call.reference ∧
      request.url.queryItems = call.items ∧ request.content = contentFor call.call.document := by
  have spelled := isLiteralReference literal
  have writable : call.call.document.hasUnwritable = false := by
    cases call <;> rfl
  exact ⟨_, request_of_literal spelled writable policy call.call.method call.call.parameters,
    toUpper_method call, path_address reaches.root spelled _, queryItems_call reaches.root spelled,
    rfl⟩

/-- What the service makes of a line that was sent to it. -/
theorem readLine_command (line : String) :
    Service.readLine (.document (.object [("command", .text line)])) =
      if CommandOrder.lengthLimit < line.length then
        .invalid [{ problem := .tooLong CommandOrder.lengthLimit, place := [.key "command"],
                    input := .text line }]
      else .valid line := by
  have short : Reader.shortText CommandOrder.lengthLimit (.text line) =
      if CommandOrder.lengthLimit < line.length then
        .fail (.tooLong CommandOrder.lengthLimit) (.text line)
      else .valid line := rfl
  have found : Reader.required (.object [("command", .text line)]) "command"
      (Reader.shortText CommandOrder.lengthLimit) =
      (Reader.shortText CommandOrder.lengthLimit (.text line)).under (.key "command") := rfl
  rw [Service.readLine, CommandOrder.ofJson, found, short]
  split <;> rfl

/-- The data of a request that carries a call. -/
theorem ofRequest_call (fits : call.isTooLong = false)
    (content : request.content = contentFor call.call.document)
    (query : request.url.queryItems = call.items) :
    Service.Order.ofRequest request call.task = .valid call.order := by
  cases call with
  | create | list | get | reset | delete => rfl
  | execute id line =>
      have short : ¬ CommandOrder.lengthLimit < line.length := by
        simpa [isTooLong] using fits
      have read : Service.readLine request.content = .valid line := by
        rw [content]
        exact (readLine_command line).trans (if_neg short)
      simp only [Service.Order.ofRequest, task, read, Checked.map, Checked.under, order]
  | history id direction =>
      have read : Service.readDirection request.url.queryItems = .valid direction := by
        rw [query]
        cases direction <;> rfl
      simp only [Service.Order.ofRequest, task, read, Checked.map, Checked.under, order]

theorem ofRequest_tooLong {line : String} (long : CommandOrder.lengthLimit < line.length)
    (content : request.content = contentFor (Call.execute id (.text line)).document) :
    Service.Order.ofRequest request (.execute id) =
      .invalid [{ problem := .tooLong CommandOrder.lengthLimit,
                  place := [.key "body", .key "command"], input := .text line }] := by
  have read := (readLine_command line).trans (if_pos long)
  have sent : request.content = .document (.object [("command", .text line)]) := content
  simp only [Service.Order.ofRequest, sent, read, Checked.map, Checked.under, List.map_cons,
    List.map_nil, Issue.under]

end CyberRange.SessionCall
