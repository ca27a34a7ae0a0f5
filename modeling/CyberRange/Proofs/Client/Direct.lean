import CyberRange.Client.Call
import CyberRange.Client.Transport
import CyberRange.Proofs.Registry.Runs

namespace CyberRange

/-! Calls of the client about sessions, compared with using the registry directly. -/

/-- The calls about sessions, with a direction that is one. -/
inductive SessionCall where
  | create
  | list
  | get (id : String)
  | execute (id line : String)
  | history (id : String) (direction : Direction)
  | reset (id : String)
  | delete (id : String)

namespace SessionCall

open Registry (Operation Response)

def call : SessionCall → Call
  | .create => .createSession
  | .list => .listSessions
  | .get id => .getSession id
  | .execute id line => .execute id (.text line)
  | .history id direction => .history id (.text direction.name)
  | .reset id => .resetSession id
  | .delete id => .deleteSession id

/-- The operation that does the same without a network. -/
def operation : SessionCall → Operation
  | .create => .create
  | .list => .list
  | .get id => .get id
  | .execute id line => .submit id line
  | .history id direction => .recallLine id (.text direction.name)
  | .reset id => .reset id
  | .delete id => .delete id

def id? : SessionCall → Option String
  | .create | .list => none
  | .get id | .execute id _ | .history id _ | .reset id | .delete id => some id

/-- Whether a call sends a line that is not taken over the network. -/
def isTooLong : SessionCall → Bool
  | .execute _ line => CommandOrder.lengthLimit < line.length
  | _ => false

/-- What the operation gives directly; a line that is too long is not submitted. -/
def direct (now : Timestamp) (call : SessionCall) (desk : Desk) :
    Option (Except RegistryFault Response) × Desk :=
  if call.isTooLong then (none, desk)
  else
    let (response, next) := desk.apply now call.operation
    (some response, next)

end SessionCall

def Desk.served (desk : Desk) : Service :=
  { provider := .shared desk.registry, ids := desk.ids }

/-- A message has what the snapshot of a session has. -/
structure SessionState.Describes (state : SessionState) (session : Session) : Prop where
  sessionId : session.snapshot.field? "session_id" = some (.text state.sessionId)
  createdAt : session.snapshot.field? "created_at" = some (.text state.createdAt)
  prompt : session.snapshot.field? "prompt" = some (.text state.prompt)
  currentPath : session.snapshot.field? "current_path" = some (.text state.currentPath)
  busy : session.snapshot.field? "busy" = some (.bool state.busy)
  historySize : session.snapshot.field? "history_size" = some (.int state.historySize)
  transcript : session.snapshot.field? "transcript" =
    some (.list (state.transcript.map ScreenBlock.toJson))

/-- A message has the result of a line and what the terminal shows after it. -/
structure CommandReport.Describes (report : CommandReport) (line : String)
    (result : Option CommandResult) (terminal : Console) : Prop where
  command : report.command = Text.strip line
  output : report.output = result.elim "" CommandResult.output
  type : report.type = (result.elim ResultType.info CommandResult.type).name
  executed : report.executed = result.isSome
  cleared : report.cleared = decide (Terminal.Request.ofLine line = .clear)
  prompt : report.prompt = terminal.prompt
  currentPath : report.currentPath = terminal.processor.files.currentPath

namespace SessionCall

open Registry (Response)

/-- The client says the same as the operation that was carried out directly and left
the given desk behind. -/
inductive SameAnswer (desk : Desk) :
    SessionCall → Option (Except RegistryFault Response) → Except CallFault Reply → Prop where
  | state {call session state} (same : state.Describes session) :
      SameAnswer desk call (some (.ok (.session session))) (.ok (.state state))
  | list {ids} :
      SameAnswer desk .list (some (.ok (.ids ids)))
        (.ok (.list { sessionIds := ids, count := ids.length,
                      maxSessions := desk.registry.capacity }))
  | report {id line result session report} (held : desk.registry.get id = .ok session)
      (same : report.Describes line result session.terminal) :
      SameAnswer desk (.execute id line) (some (.ok (.result result))) (.ok (.report report))
  | recalled {id direction line} :
      SameAnswer desk (.history id direction) (some (.ok (.line line)))
        (.ok (.recalled { direction, entry := line }))
  | deletion {id} :
      SameAnswer desk (.delete id) (some (.ok .done))
        (.ok (.deletion { deleted := true, sessionId := id }))
  | unknown {call id error} (kind : error.kind = .notFound) (status : error.status = 404)
      (details : error.details = .object [("session_id", .text id)]) :
      SameAnswer desk call (some (.error (.unknownSession id))) (.error (.api error))
  | limit {call capacity error} (kind : error.kind = .conflict) (status : error.status = 409)
      (details : error.details.field? "max_sessions" = some (.int (capacity : Nat))) :
      SameAnswer desk call (some (.error (.limitReached capacity))) (.error (.api error))
  | latency {call invalid error} (kind : error.kind = .plain) (status : error.status = 400)
      (message : error.message = invalid.message) :
      SameAnswer desk call (some (.error (.invalidLatency invalid))) (.error (.api error))
  | tooLong {id line error} (long : CommandOrder.lengthLimit < line.length)
      (kind : error.kind = .validation) (status : error.status = 422) :
      SameAnswer desk (.execute id line) none (.error (.api error))

end SessionCall

end CyberRange
