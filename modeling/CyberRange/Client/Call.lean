import CyberRange.Client.Query
import CyberRange.Messages.Catalogue
import CyberRange.Messages.Session

namespace CyberRange

/-! The calls of the client library and their replies.  An id goes into the path
as it is. -/

inductive Call where
  | health
  | createSession
  | listSessions
  | getSession (id : String)
  | deleteSession (id : String)
  | execute (id : String) (command : Json)
  | history (id : String) (direction : Json)
  | resetSession (id : String)
  | listTargets
  /-- Any request at all, and its answer as it comes. -/
  | raw (method reference : String) (parameters : List (String × Json)) (document : Json)

inductive Reply where
  | health (health : Health)
  | state (state : SessionState)
  | list (list : SessionList)
  | deletion (deletion : Deletion)
  | report (report : CommandReport)
  | recalled (line : RecalledLine)
  | targets (list : TargetList)
  | raw (document : Json)

namespace Reply

def toJson : Reply → Json
  | .health reply => reply.toJson
  | .state reply => reply.toJson
  | .list reply => reply.toJson
  | .deletion reply => reply.toJson
  | .report reply => reply.toJson
  | .recalled reply => reply.toJson
  | .targets reply => reply.toJson
  | .raw document => document

/-- Reads a record out of the document of an answer. -/
def read (record : String) (reader : Json → Checked α) (reply : α → Reply) (document : Json) :
    Except CallFault Reply :=
  match document with
  | .object fields =>
      match reader (.object fields) with
      | .valid value => .ok (reply value)
      | .invalid issues => .error (.invalidReply issues)
  | other => .error (.notRecord record other.kindName)

end Reply

namespace Call

def method : Call → String
  | .health | .listSessions | .getSession _ | .history .. | .listTargets => "GET"
  | .createSession | .execute .. | .resetSession _ => "POST"
  | .deleteSession _ => "DELETE"
  | .raw method .. => method

def reference : Call → String
  | .health => "/health"
  | .createSession | .listSessions => "/sessions"
  | .getSession id | .deleteSession id => "/sessions/" ++ id
  | .execute id _ => "/sessions/" ++ id ++ "/execute"
  | .history id _ => "/sessions/" ++ id ++ "/history"
  | .resetSession id => "/sessions/" ++ id ++ "/reset"
  | .listTargets => "/targets"
  | .raw _ reference .. => reference

def parameters : Call → List (String × Json)
  | .history _ direction => [("direction", direction)]
  | .raw _ _ parameters _ => parameters
  | _ => []

/-- The document that is sent along; null for none. -/
def document : Call → Json
  | .execute _ command => .object [("command", command)]
  | .raw _ _ _ document => document
  | _ => .null

def readReply : Call → Json → Except CallFault Reply
  | .health => Reply.read "client.models.HealthResponse" Health.ofJson .health
  | .createSession | .getSession _ | .resetSession _ =>
      Reply.read "api.models.SessionStateResponse" SessionState.ofJson .state
  | .listSessions => Reply.read "api.models.SessionListResponse" SessionList.ofJson .list
  | .deleteSession _ => Reply.read "api.models.DeleteSessionResponse" Deletion.ofJson .deletion
  | .execute .. => Reply.read "api.models.ExecuteResponse" CommandReport.ofJson .report
  | .history .. => Reply.read "api.models.HistoryResponse" RecalledLine.ofJson .recalled
  | .listTargets => Reply.read "api.models.TargetListResponse" TargetList.ofJson .targets
  | .raw .. => fun document => .ok (.raw document)

def perform (policy : Policy) (transport : Transport σ) (call : Call) (state : σ) :
    Trace σ Reply :=
  (policy.send transport call.reference
    (policy.request call.method call.reference call.parameters call.document) state).andThen
    call.readReply

end Call

end CyberRange
