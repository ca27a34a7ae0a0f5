import CyberRange.Proofs.Client.Answers
import CyberRange.Proofs.Client.Sending
import CyberRange.Proofs.Messages.RoundTrip
import CyberRange.Proofs.Terminal.InTurn
import Mathlib.Data.List.Forall2

namespace CyberRange

/-! The client over the network does what the registry does directly.

A call reaches the service as the order that stands for its operation; the service
carries it out on the same registry, and the client reads back what was written.
What holds of one call holds of every sequence of calls.
-/

theorem SessionState.describes_ofSession (session : Session) :
    (SessionState.ofSession session).Describes session where
  sessionId := rfl
  createdAt := rfl
  prompt := rfl
  currentPath := rfl
  busy := rfl
  historySize := rfl
  transcript := by
    have entries : (SessionState.ofSession session).transcript.map ScreenBlock.toJson =
        session.terminal.transcript.map TranscriptEntry.toJson := by
      rw [SessionState.ofSession, List.map_map]
      rfl
    rw [entries]
    rfl

/-- A line without a result wipes the screen exactly if it asks for that. -/
theorem Console.isNone_submit (now : Timestamp) (line : String) (console : Console) :
    ((console.submit now line).1.isNone && Text.strip line == Terminal.clearLine) =
      decide (Terminal.Request.ofLine line = .clear) := by
  have wipes := Terminal.Request.ofLine_eq_clear_iff line
  rw [← Option.isNone_map, console.map_submit, Terminal.submit]
  cases request : Terminal.Request.ofLine line with
  | clear => simp [wipes.mp request]
  | nothing =>
      have other : ¬ Text.strip line = Terminal.clearLine := by
        rw [← wipes, request]
        exact Terminal.Request.noConfusion
      simp [other]
  | run command => simp

theorem CommandReport.describes_ofSubmission {line : String} {result : Option CommandResult}
    (cleared : (result.isNone && Text.strip line == Terminal.clearLine) =
      decide (Terminal.Request.ofLine line = .clear)) (terminal : Console) :
    (CommandReport.ofSubmission line result terminal).Describes line result terminal where
  command := rfl
  output := rfl
  type := rfl
  executed := rfl
  cleared := cleared
  prompt := rfl
  currentPath := rfl

namespace Reply

theorem read_of_valid {read : Json → Checked α} {reply : α → Reply} {document : Json} {value : α}
    (record : String) (fields : ∃ fields, document = .object fields)
    (valid : read document = .valid value) :
    Reply.read record read reply document = .ok (reply value) := by
  obtain ⟨fields, rfl⟩ := fields
  simp only [Reply.read, valid]

end Reply

namespace SessionCall

open Registry (Response)

variable {policy : Policy} {call : SessionCall} {desk after : Desk} {now : Timestamp}
  {id : String} {request : Http.Request}

/-- A response of the service says what the operation gives directly. -/
structure SaysSame (after : Desk) (call : SessionCall) (direct : Except RegistryFault Response)
    (response : Http.Response) : Prop where
  final : Policy.isGatewayAnswer response = false
  same : SameAnswer after call (some direct)
    ((ErrorReading.documentOf response).bind call.call.readReply)

theorem saysSame_refuse {fault : RegistryFault}
    (known : ∀ unknown, fault ≠ .unknownDirection unknown) (after : Desk) (call : SessionCall) :
    SaysSame after call (.error fault) (Service.refuse fault) := by
  cases fault with
  | unknownSession id =>
      obtain ⟨error, read, kind, status, details⟩ := ErrorReading.documentOf_unknownSession id
      refine ⟨rfl, ?_⟩
      rw [Service.refuse, Refusal.ofRegistryFault, read]
      exact .unknown kind status details
  | limitReached capacity =>
      obtain ⟨error, read, kind, status, details⟩ := ErrorReading.documentOf_sessionLimit capacity
      refine ⟨rfl, ?_⟩
      rw [Service.refuse, Refusal.ofRegistryFault, read]
      exact .limit kind status details
  | invalidLatency invalid =>
      obtain ⟨error, read, kind, status, message⟩ :=
        ErrorReading.documentOf_badValue invalid.message
      refine ⟨rfl, ?_⟩
      rw [Service.refuse, Refusal.ofRegistryFault, read]
      exact .latency kind status message
  | unknownDirection unknown => exact absurd rfl (known unknown)

theorem saysSame_document {direct : Except RegistryFault Response} {status : Int} {document : Json}
    {reply : Reply} (status_eq : status = 200 ∨ status = 201)
    (read : call.call.readReply document = .ok reply)
    (same : SameAnswer after call (some direct) (.ok reply)) :
    SaysSame after call direct (.document status document) where
  final := by
    rcases status_eq with rfl | rfl <;> rfl
  same := by
    have success : 200 ≤ status ∧ status ≤ 299 := by omega
    rw [ErrorReading.documentOf_document success, Except.bind, read]
    exact same

theorem read_state (session : Session) :
    Reply.read "api.models.SessionStateResponse" SessionState.ofJson .state
        (SessionState.ofSession session).toJson =
      .ok (.state (SessionState.ofSession session)) :=
  Reply.read_of_valid _ ⟨_, rfl⟩ (SessionState.ofJson_toJson _)

theorem saysSame_state {status : Int} (status_eq : status = 200 ∨ status = 201)
    (reads : call.call.readReply =
      Reply.read "api.models.SessionStateResponse" SessionState.ofJson .state)
    (after : Desk) (session : Session) :
    SaysSame after call (.ok (.session session))
      (.document status (SessionState.ofSession session).toJson) := by
  refine saysSame_document status_eq ?_ (.state (SessionState.describes_ofSession session))
  rw [reads]
  exact read_state session

theorem register_error {ids later : IdSource} {registry : Registry} {fault : RegistryFault}
    (refused : registry.register now ids = (.error fault, later)) :
    ∀ unknown, fault ≠ .unknownDirection unknown := by
  intro unknown
  simp only [Registry.register] at refused
  split at refused
  · obtain rfl := Except.error.inj (Prod.mk.inj refused).1
    exact RegistryFault.noConfusion
  · split at refused
    · obtain rfl := Except.error.inj (Prod.mk.inj refused).1
      exact RegistryFault.noConfusion
    · simp at refused

theorem saysSame_create (now : Timestamp) (desk : Desk) :
    let outcome := Service.carryOut now desk.registry desk.served .create
    let direct := desk.apply now .create
    outcome.2 = direct.2.served ∧ SaysSame direct.2 .create direct.1 outcome.1 := by
  simp only [Service.carryOut, Desk.apply, Desk.served]
  cases registered : desk.registry.register now desk.ids with
  | mk outcome ids =>
      cases outcome with
      | error fault => exact ⟨rfl, saysSame_refuse (register_error registered) _ _⟩
      | ok created =>
          obtain ⟨session, next⟩ := created
          exact ⟨rfl, saysSame_state (.inr rfl) rfl _ session⟩

theorem get_error {fault : RegistryFault} {registry : Registry}
    (refused : registry.get id = .error fault) : ∀ unknown, fault ≠ .unknownDirection unknown := by
  intro unknown
  cases found : Entries.get? id registry.sessions with
  | none =>
      simp only [Registry.get, found, Except.error.injEq] at refused
      rw [← refused]
      exact RegistryFault.noConfusion
  | some session => simp [Registry.get, found] at refused

theorem navigate_name (registry : Registry) (id : String) (direction : Direction) :
    registry.navigate id (.text direction.name) = registry.recallLine id direction := by
  cases found : registry.get id with
  | error fault => simp only [Registry.navigate, Registry.recallLine, found]
  | ok session => simp only [Registry.navigate, found, Direction.read_name]

theorem get_withTerminal {registry : Registry} {session : Session}
    (found : registry.get id = .ok session) (terminal : Console) :
    (registry.withTerminal id terminal).get id = .ok { session with terminal } := by
  cases stored : Entries.get? id registry.sessions with
  | none => simp [Registry.get, stored] at found
  | some held =>
      obtain rfl : held = session := by simpa [Registry.get, stored] using found
      simp only [Registry.get, Registry.withTerminal, Entries.get?_adjust_self, stored,
        Option.map_some]

/-- Carrying out the order of a call does what the operation does directly. -/
theorem saysSame_carryOut (now : Timestamp) (call : SessionCall) (desk : Desk) :
    let outcome := Service.carryOut now desk.registry desk.served call.order
    let direct := desk.apply now call.operation
    outcome.2 = direct.2.served ∧ SaysSame direct.2 call direct.1 outcome.1 := by
  cases call with
  | create => exact saysSame_create now desk
  | list =>
      refine ⟨rfl, saysSame_document (.inl rfl) ?_ .list⟩
      exact Reply.read_of_valid "api.models.SessionListResponse" ⟨_, rfl⟩
        (SessionList.ofJson_toJson _)
  | get id =>
      simp only [order, operation, Service.carryOut, Desk.apply]
      cases found : desk.registry.get id with
      | error fault => exact ⟨rfl, saysSame_refuse (get_error found) _ _⟩
      | ok session => exact ⟨rfl, saysSame_state (.inl rfl) rfl _ session⟩
  | delete id =>
      simp only [order, operation, Service.carryOut, Desk.apply, Registry.delete]
      cases found : desk.registry.get id with
      | error fault => exact ⟨rfl, saysSame_refuse (get_error found) _ _⟩
      | ok session =>
          refine ⟨rfl, saysSame_document (.inl rfl) ?_ .deletion⟩
          exact Reply.read_of_valid "api.models.DeleteSessionResponse" ⟨_, rfl⟩
            (Deletion.ofJson_toJson _)
  | execute id line =>
      simp only [order, operation, Service.carryOut, Desk.apply, Registry.submit]
      cases found : desk.registry.get id with
      | error fault => exact ⟨rfl, saysSame_refuse (get_error found) _ _⟩
      | ok session =>
          refine ⟨rfl, saysSame_document (.inl rfl) ?_ (.report (get_withTerminal found _)
            (CommandReport.describes_ofSubmission
              (Console.isNone_submit now line session.terminal) _))⟩
          exact Reply.read_of_valid "api.models.ExecuteResponse" ⟨_, rfl⟩
            (CommandReport.ofJson_toJson _)
  | history id direction =>
      simp only [order, operation, Service.carryOut, Desk.apply, navigate_name,
        Registry.recallLine]
      cases found : desk.registry.get id with
      | error fault => exact ⟨rfl, saysSame_refuse (get_error found) _ _⟩
      | ok session =>
          refine ⟨rfl, saysSame_document (.inl rfl) ?_ .recalled⟩
          exact Reply.read_of_valid "api.models.HistoryResponse" ⟨_, rfl⟩
            (RecalledLine.ofJson_toJson _)
  | reset id =>
      simp only [order, operation, Service.carryOut, Desk.apply, Registry.reset]
      cases found : desk.registry.get id with
      | error fault => exact ⟨rfl, saysSame_refuse (get_error found) _ _⟩
      | ok session =>
          cases window : desk.registry.latency.window with
          | error invalid => exact ⟨rfl, saysSame_refuse (fun _ => RegistryFault.noConfusion) _ _⟩
          | ok latency => exact ⟨rfl, saysSame_state (.inl rfl) rfl _ _⟩

theorem refusedContent_call (content : request.content = contentFor call.call.document) :
    Service.refusedContent request call.task = none := by
  cases call with
  | execute id line =>
      rw [Service.refusedContent, content]
      rfl
  | create | list | get | history | reset | delete => rfl

/-- What the service does with a call that reaches it. -/
theorem handle_call (literal : ∀ id, call.id? = some id → IsLiteralId id)
    (method : request.method = call.call.method) (path : request.url.path = call.call.reference)
    (content : request.content = contentFor call.call.document) (now : Timestamp) (desk : Desk) :
    Service.handle now request desk.served =
      Service.perform now desk.registry request call.task desk.served := by
  have found := route literal
  rw [← method, ← path] at found
  simp only [Service.handle, found, Service.serve, refusedContent_call content]
  rfl

/-- One call over the network does what the operation does directly. -/
theorem perform_call (reaches : policy.ReachesRoot)
    (literal : ∀ id, call.id? = some id → IsLiteralId id) (now : Timestamp) (desk : Desk) :
    let trace := call.call.perform policy (Service.connection now) desk.served
    let direct := call.direct now desk
    trace.state = direct.2.served ∧ SameAnswer direct.2 call direct.1 trace.result := by
  obtain ⟨request, ready, method, path, query, content⟩ := request_call reaches literal
  have handled := handle_call literal method path content now desk
  cases long : call.isTooLong with
  | false =>
      have valid := ofRequest_call long content query
      obtain ⟨state, answer⟩ := saysSame_carryOut now call desk
      have answered : Service.connection now request desk.served =
          (.ok (Service.carryOut now desk.registry desk.served call.order).1,
            (Service.carryOut now desk.registry desk.served call.order).2) := by
        simp only [Service.connection, handled, Service.perform, valid]
      have sent := Policy.send_of_answer reaches.tries answered answer.final call.call.reference
      simp only [Call.perform, ready, sent, Trace.andThen, direct, long, Bool.false_eq_true,
        if_false]
      exact ⟨state, answer.same⟩
  | true =>
      cases call with
      | execute id line =>
          have above : CommandOrder.lengthLimit < line.length := by simpa [isTooLong] using long
          obtain ⟨error, read, kind, status⟩ :=
            ErrorReading.documentOf_tooLong CommandOrder.lengthLimit line
          have answered : Service.connection now request desk.served = (.ok (Service.report
              [{ problem := .tooLong CommandOrder.lengthLimit,
                 place := [.key "body", .key "command"], input := .text line }]),
              desk.served) := by
            simp only [Service.connection, handled, Service.perform, task,
              ofRequest_tooLong above content]
          have sent := Policy.send_of_answer reaches.tries answered rfl
            (SessionCall.execute id line).call.reference
          rw [read] at sent
          simp only [Call.perform, ready, sent, Trace.andThen, direct, long, if_true]
          exact ⟨trivial, .tooLong above kind status⟩
      | create | list | get | history | reset | delete => simp [isTooLong] at long

/-- Makes calls one after the other, each at its time. -/
def runClient (policy : Policy) :
    List (Timestamp × SessionCall) → Service → List (Except CallFault Reply) × Service
  | [], service => ([], service)
  | (now, call) :: rest, service =>
      let trace := call.call.perform policy (Service.connection now) service
      let (results, last) := runClient policy rest trace.state
      (trace.result :: results, last)

/-- A call with what the registry gave directly, and the desk that was left behind. -/
structure DirectStep where
  call : SessionCall
  response : Option (Except RegistryFault Response)
  after : Desk

/-- Carries out the operations of calls directly, each at its time. -/
def runDirect : List (Timestamp × SessionCall) → Desk → List DirectStep × Desk
  | [], desk => ([], desk)
  | (now, call) :: rest, desk =>
      let (response, after) := call.direct now desk
      let (steps, last) := runDirect rest after
      ({ call, response, after } :: steps, last)

theorem sameAnswers_run (reaches : policy.ReachesRoot)
    {calls : List (Timestamp × SessionCall)}
    (uuids : ∀ entry ∈ calls, ∀ id, entry.2.id? = some id → IsUuid id) (desk : Desk) :
    List.Forall₂ (fun step result => SameAnswer step.after step.call step.response result)
        (runDirect calls desk).1 (runClient policy calls desk.served).1 ∧
      (runClient policy calls desk.served).2 = (runDirect calls desk).2.served := by
  induction calls generalizing desk with
  | nil => exact ⟨.nil, rfl⟩
  | cons entry rest induction =>
      obtain ⟨now, call⟩ := entry
      have literal : ∀ id, call.id? = some id → IsLiteralId id := fun id addressed =>
        (uuids (now, call) List.mem_cons_self id addressed).isLiteralId
      obtain ⟨state, same⟩ := perform_call reaches literal now desk
      obtain ⟨others, last⟩ := induction
        (fun other member => uuids other (List.mem_cons_of_mem _ member)) (call.direct now desk).2
      simp only [runClient, runDirect, state]
      exact ⟨.cons same others, last⟩

/-- Calls about sessions whose ids come from the source of the registry give, over the
network, the same answers as the operations on the registry, and leave the same
registry and the same source behind. -/
theorem client_refines_registry (reaches : policy.ReachesRoot)
    (uuids : ∀ number, IsUuid (desk.ids.idAt number)) (calls : List (Timestamp × SessionCall))
    (issued : ∀ entry ∈ calls, ∀ id, entry.2.id? = some id → ∃ number, id = desk.ids.idAt number) :
    let client := runClient policy calls desk.served
    let direct := runDirect calls desk
    List.Forall₂ (fun step result => SameAnswer step.after step.call step.response result)
        direct.1 client.1 ∧
      client.2 = direct.2.served := by
  refine sameAnswers_run reaches (fun entry member id addressed => ?_) desk
  obtain ⟨number, rfl⟩ := issued entry member id addressed
  exact uuids number

/-- A client of a registry that has room for one session. -/
theorem client_refines_registry_of_one :
    let policy : Policy :=
      { baseUrl := "http://localhost:8000", timeout := .int 30, retryEnabled := true,
        maxRetries := 3 }
    let desk : Desk :=
      { registry := { capacity := 1, capacity_pos := by decide, latency := .instant, sessions := [] }
        ids := { issued := 0, idAt := fun number => IdSource.numbered (number % 8) } }
    let calls := [SessionCall.create, .create, .execute (desk.ids.idAt 1) "pwd",
      .history (desk.ids.idAt 1) .up, .list, .delete (desk.ids.idAt 1),
      .get (desk.ids.idAt 1)].map fun call => ((default : Timestamp), call)
    policy.ReachesRoot ∧ (∀ number, IsUuid (desk.ids.idAt number)) ∧
      List.Forall₂ (fun step result => SameAnswer step.after step.call step.response result)
        (runDirect calls desk).1 (runClient policy calls desk.served).1 ∧
      (runClient policy calls desk.served).2 = (runDirect calls desk).2.served := by
  intro policy desk calls
  have reaches : policy.ReachesRoot := ⟨by decide +kernel, by decide⟩
  have each : ∀ number < 8, (IdSource.numbered number).length = 36 ∧
      (IdSource.numbered number).toList.all (fun c => c.isAlphanum || c == '-') = true := by
    decide +kernel
  have uuids : ∀ number, IsUuid (desk.ids.idAt number) := by
    intro number
    obtain ⟨length, letters⟩ := each (number % 8) (Nat.mod_lt _ (by decide))
    exact ⟨length, by simpa using letters⟩
  refine ⟨reaches, uuids, client_refines_registry reaches uuids calls ?_⟩
  intro entry member id addressed
  refine ⟨1, ?_⟩
  simp only [calls, List.map_cons, List.map_nil, List.mem_cons, List.not_mem_nil, or_false] at member
  rcases member with rfl | rfl | rfl | rfl | rfl | rfl | rfl <;>
    first
      | exact (Option.some.inj addressed).symm
      | exact absurd addressed (by simp [id?])

end SessionCall

end CyberRange
