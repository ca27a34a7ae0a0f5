import CyberRange.Proofs.Client.Attempts

namespace CyberRange

/-! What becomes of responses that report a failure.

The class of an error goes by the status alone.  Its message is put together from the content
before that, and a list of issues is taken at its word there: an item that is not as the
service writes it keeps the response from being reported at all.
-/

namespace Json

/-- Whether a value has a last part: a list or a text that is not empty. -/
def hasEnd : Json → Bool
  | .list items => !items.isEmpty
  | .text letters => letters != ""
  | _ => false

/-- Whether an item of a list of issues can be told: it has fields, and the place of the
issue is left out of them or has a last part. -/
def tellsIssue : Json → Bool
  | .object fields => (Entries.get? "loc" fields).all hasEnd
  | _ => false

/-- Whether an explanation can be told: issues in a list one by one, all else as it is. -/
def tellsDetail : Json → Bool
  | .list items => items.all tellsIssue
  | _ => true

end Json

/-- Whether a message can be put together from a content: its explanation can be told, if it
has one, and nothing is nested too deep to be looked at. -/
def Http.Content.isTellable : Http.Content → Bool
  | .document value => (value.field? "detail").all Json.tellsDetail
  | .malformed defective _ =>
      match defective.defect with
      | .tooDeep _ => false
      | _ => true
  | _ => true

namespace ErrorReading

variable {response : Http.Response} {item : Json} {items : List Json}
  {fields : List (String × Json)}

theorem lastPart_ok_iff : (∃ last, lastPart item = .ok last) ↔ item.hasEnd = true := by
  cases item with
  | list items =>
      rcases items.eq_nil_or_concat with rfl | ⟨front, last, rfl⟩ <;> simp [lastPart, Json.hasEnd]
  | text letters =>
      have filled : letters = "" ↔ letters.toList = [] := by simp
      rcases letters.toList.eq_nil_or_concat with none | ⟨front, last, whole⟩
      · simp [lastPart, Json.hasEnd, none, filled]
      · simp [lastPart, Json.hasEnd, whole, filled]
  | null | bool | int | float | object => simp [lastPart, Json.hasEnd]

theorem readDetail_ok_iff :
    (∃ message, readDetail item = .ok message) ↔ item.tellsIssue = true := by
  cases item with
  | object fields =>
      cases place : Entries.get? "loc" fields with
      | none => simp [readDetail, Json.field?, Json.tellsIssue, place, lastPart, Except.map]
      | some found =>
          rw [Json.tellsIssue, place, Option.all_some, ← lastPart_ok_iff]
          cases last : lastPart found <;>
            simp [readDetail, Json.field?, place, last, Except.map]
  | null | bool | int | float | text | list => simp [readDetail, Json.tellsIssue]

theorem readDetails_ok_iff :
    (∃ messages, readDetails items = .ok messages) ↔ items.all Json.tellsIssue = true := by
  induction items with
  | nil => simp [readDetails]
  | cons item rest induction =>
      rw [List.all_cons, Bool.and_eq_true, ← induction, ← readDetail_ok_iff]
      cases first : readDetail item with
      | error fault => simp [readDetails, first]
      | ok message =>
          cases others : readDetails rest <;> simp [readDetails, first, others, Except.map]

theorem ofFields_ok_iff :
    (∃ reading, ofFields fields = .ok reading) ↔
      (Http.Content.document (.object fields)).isTellable = true := by
  rw [Http.Content.isTellable, Json.field?]
  unfold ofFields
  split
  · rename_i items found
    rw [found, Option.all_some, Json.tellsDetail, ← readDetails_ok_iff]
    cases readDetails items <;> simp [Except.map]
  · rename_i message found
    simp [found, Json.tellsDetail]
  · rename_i notIssues notText
    have told : (Entries.get? "detail" fields).all Json.tellsDetail = true := by
      cases detail : Entries.get? "detail" fields with
      | none => rfl
      | some value =>
          cases value with
          | list items => exact absurd detail (notIssues items)
          | null | bool | int | float | text | object => rfl
    cases Entries.get? "error" fields <;> simp [told]

theorem ofResponse_ok_iff :
    (∃ reading, ofResponse response = .ok reading) ↔ response.content.isTellable = true := by
  cases content : response.content with
  | empty => simp [ofResponse, content, Http.Content.isTellable]
  | text text => simp [ofResponse, content, Http.Content.isTellable]
  | malformed defective text =>
      cases defect : defective.defect <;>
        simp [ofResponse, content, defect, Http.Content.isTellable]
  | document value =>
      cases value with
      | object fields => simp only [ofResponse, content, ofFields_ok_iff]
      | null | bool | int | float | text | list =>
          simp [ofResponse, content, Http.Content.isTellable, Json.field?]

/-- The error that a response stands for: its class goes by the status, and it keeps the
status and the content. -/
structure Reports (response : Http.Response) (error : ApiError) : Prop where
  notFound : error.kind = .notFound ↔ response.status = 404
  conflict : error.kind = .conflict ↔ response.status = 409
  validation : error.kind = .validation ↔ response.status = 422
  server : error.kind = .server ↔ 500 ≤ response.status
  plain : error.kind = .plain ↔ response.status ≠ 404 ∧ response.status ≠ 409 ∧
    response.status ≠ 422 ∧ response.status < 500
  status : error.status = response.status
  body : error.body = keptBody response.content

theorem ofStatus_cases (status : Int) :
    (ApiErrorKind.ofStatus status = .notFound ↔ status = 404) ∧
      (ApiErrorKind.ofStatus status = .conflict ↔ status = 409) ∧
      (ApiErrorKind.ofStatus status = .validation ↔ status = 422) ∧
      (ApiErrorKind.ofStatus status = .server ↔ 500 ≤ status) ∧
      (ApiErrorKind.ofStatus status = .plain ↔
        status ≠ 404 ∧ status ≠ 409 ∧ status ≠ 422 ∧ status < 500) := by
  unfold ApiErrorKind.ofStatus
  split_ifs <;> simp_all

theorem documentOf_failed (failed : response.isSuccess = false) :
    documentOf response = .error (errorOf response) := by
  rw [documentOf, if_neg (by simp [failed])]

theorem errorOf_of_tellable (tellable : response.content.isTellable = true) :
    ∃ error, errorOf response = .api error ∧ Reports response error := by
  obtain ⟨reading, read⟩ := ofResponse_ok_iff.mpr tellable
  obtain ⟨notFound, conflict, validation, server, plain⟩ := ofStatus_cases response.status
  rw [errorOf, read]
  exact ⟨_, rfl, notFound, conflict, validation, server, plain, rfl, rfl⟩

theorem errorOf_of_not_tellable (untellable : response.content.isTellable = false) :
    ∃ fault, errorOf response = .unreadableError fault := by
  cases read : ofResponse response with
  | error fault => exact ⟨fault, by rw [errorOf, read]⟩
  | ok reading =>
      have tellable := ofResponse_ok_iff.mp ⟨reading, read⟩
      rw [untellable] at tellable
      contradiction

/-- The last response to a request, and no reason to send it again. -/
structure StopsAt (policy : Policy) (transport : Transport σ) (request : Http.Request) (state : σ)
    (trace : Trace σ Json) (response : Http.Response) : Prop where
  made : 0 < trace.requests.length
  last : transport.arrival request state (trace.requests.length - 1) = .ok response
  final : policy.retriesStatus response.status
    (policy.attempts.toNat - trace.requests.length) = false

/-- A response that a call stops at is read, whatever was before it. -/
theorem StopsAt.result_send {policy : Policy} {transport : Transport σ} {request : Http.Request}
    {state : σ} {reference : String}
    (stops : StopsAt policy transport request state
      (policy.send transport reference (.ok request) state) response) :
    (policy.send transport reference (.ok request) state).result = documentOf response := by
  obtain ⟨made, last, final⟩ := stops
  by_cases tries : 1 ≤ policy.attempts
  · obtain ⟨waited, course⟩ :=
      Policy.exists_course_send tries transport reference request state
    rw [course.requests, List.length_replicate] at last final
    have settled : policy.judge reference (policy.attempts.toNat - 1 - waited)
        (transport.arrival request state waited) = .settled (documentOf response) := by
      rw [Nat.sub_sub, Nat.add_comm 1]
      simp only [Nat.add_sub_cancel] at last
      simp only [Policy.judge, last, final, Bool.false_eq_true, if_false]
    have ends := course.ends
    rw [settled] at ends
    exact ends
  · rw [Policy.send_of_attempts_lt_one (by omega)] at made
    exact absurd made (Nat.lt_irrefl 0)

/-- A response outside the range of success is reported as the error that it stands for, if a
message can be put together from its content; a content that none can be put together from
hides the status.  What is made of a response is what a call comes to that stops at it. -/
theorem failed_response_reported (failed : response.isSuccess = false) :
    (response.content.isTellable = true →
        ∃ error, documentOf response = .error (.api error) ∧ Reports response error) ∧
      (response.content.isTellable = false →
        ∃ fault, documentOf response = .error (.unreadableError fault)) ∧
      ∀ {σ : Type} (policy : Policy) (transport : Transport σ) (reference : String)
        (request : Http.Request) (state : σ),
        let trace := policy.send transport reference (.ok request) state
        StopsAt policy transport request state trace response →
          trace.result = documentOf response := by
  refine ⟨fun tellable => ?_, fun untellable => ?_, fun _ _ _ _ _ stops => stops.result_send⟩
  · obtain ⟨error, reported, stands⟩ := errorOf_of_tellable tellable
    exact ⟨error, by rw [documentOf_failed failed, reported], stands⟩
  · obtain ⟨fault, unread⟩ := errorOf_of_not_tellable untellable
    exact ⟨fault, by rw [documentOf_failed failed, unread]⟩

/-- The answer of a gateway is waited out, and the issues of the response after it are
reported: one at a place of two steps, one without a place. -/
theorem failed_response_reported_after_gateway :
    let issues : List Json :=
      [.object [("loc", .list [.text "body", .text "command"]), ("msg", .text "Field required")],
        .object [("msg", .null)]]
    let response : Http.Response := .document 422 (.object [("detail", .list issues)])
    let policy : Policy :=
      { baseUrl := "http://localhost:8000", timeout := .int 30, retryEnabled := true,
        maxRetries := 3 }
    let script : Script := [.ok (.document 502 .null), .ok response]
    let request : Http.Request := .create "GET" (.ofBase "http://localhost:8000") .empty
    let trace := policy.send Script.send "/" (.ok request) script
    response.isSuccess = false ∧ response.content.isTellable = true ∧
      StopsAt policy Script.send request script trace response ∧
      ∃ error, trace.result = .error (.api error) ∧ Reports response error := by
  intro issues response policy script request trace
  have failed : response.isSuccess = false := by decide
  have tellable : response.content.isTellable = true := by decide
  have stops : StopsAt policy Script.send request script trace response :=
    ⟨by decide +kernel, rfl, by decide +kernel⟩
  obtain ⟨reported, -, ends⟩ := failed_response_reported failed
  obtain ⟨error, read, stands⟩ := reported tellable
  exact ⟨failed, tellable, stops, error, (ends policy _ _ _ _ stops).trans read, stands⟩

/-- An explanation that is a list of texts, as other servers write it, hides that nothing was
found. -/
theorem list_of_texts_not_reported :
    let response : Http.Response :=
      .document 404 (.object [("detail", .list [.text "no such session"])])
    response.isSuccess = false ∧
      documentOf response = .error (.unreadableError (.notFields "str")) ∧
      ¬ ∃ error, documentOf response = .error (.api error) := by
  intro response
  have read : documentOf response = .error (.unreadableError (.notFields "str")) := rfl
  refine ⟨by decide, read, fun ⟨error, reported⟩ => ?_⟩
  rw [read] at reported
  simp at reported

end ErrorReading

end CyberRange
