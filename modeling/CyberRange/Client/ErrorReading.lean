import CyberRange.Client.Fault

namespace CyberRange

/-! Reading the answers that report errors.

The service labels its errors and explains them under `detail`; issues in the
data of a request come as a list there.  Every other content is its own message.
-/

structure ErrorReading where
  message : String
  label : Json
  details : Json

namespace ErrorReading

def lastPart : Json → Except DetailFault Json
  | .list items =>
      match items.getLast? with
      | some last => .ok last
      | none => .error .emptyList
  | .text letters =>
      match letters.toList.getLast? with
      | some last => .ok (.text (String.singleton last))
      | none => .error .emptyText
  | .object _ => .error .keyed
  | other => .error (.notParts other.kindName)

def readDetail (item : Json) : Except DetailFault String :=
  match item with
  | .object _ =>
      (lastPart ((item.field? "loc").getD (.list [.text "unknown"]))).map fun part =>
        part.display ++ ": " ++ ((item.field? "msg").getD (.text "invalid")).display
  | other => .error (.notFields other.kindName)

/-- The issues of a list, or the first one that cannot be read. -/
def readDetails : List Json → Except DetailFault (List String)
  | [] => .ok []
  | item :: rest =>
      match readDetail item with
      | .error fault => .error fault
      | .ok message => (readDetails rest).map (message :: ·)

/-- The fields that are neither label nor explanation, if there are any. -/
def extras (fields : List (String × Json)) : Json :=
  let others := fields.filter fun field => field.1 ≠ "error" && field.1 ≠ "detail"
  if others.isEmpty then .null else .object others

def ofMessage (message : String) : ErrorReading :=
  { message, label := .null, details := .null }

def ofFields (fields : List (String × Json)) : Except DetailFault ErrorReading :=
  match Entries.get? "detail" fields with
  | some (.list items) =>
      (readDetails items).map fun messages =>
        { message := String.intercalate "; " messages, label := .text "validation_error",
          details := .object [("errors", .list items)] }
  | some (.text message) =>
      .ok { message, label := (Entries.get? "error" fields).getD .null, details := extras fields }
  | _ =>
      match Entries.get? "error" fields with
      | some label => .ok { message := label.display, label := .null, details := extras fields }
      | none => .ok (ofMessage (Json.object fields).display)

/-- A text that is no document, or the status if there is no text. -/
def ofText (status : Int) (text : String) : ErrorReading :=
  let message := Text.strip text
  ofMessage (if message = "" then "HTTP " ++ toString status ++ " error" else message)

def ofResponse (response : Http.Response) : Except DetailFault ErrorReading :=
  match response.content with
  | .empty => .ok (ofText response.status "")
  | .malformed malformed text =>
      match malformed.defect with
      | .tooDeep inObject => .error (.tooDeep inObject)
      | _ => .ok (ofText response.status text)
  | .text text => .ok (ofText response.status text)
  | .document (.object fields) => ofFields fields
  | .document other => .ok (ofMessage other.display)

def keptBody : Http.Content → Json
  | .empty => .text ""
  | .malformed _ text => .text text
  | .text text => .text text
  | .document value => value

def errorOf (response : Http.Response) : CallFault :=
  match ofResponse response with
  | .error fault => .unreadableError fault
  | .ok reading =>
      let kind := ApiErrorKind.ofStatus response.status
      .api
        { kind, status := response.status, message := reading.message,
          label := kind.label reading.label, details := reading.details,
          body := keptBody response.content }

/-- The document of a successful answer, null for an empty one. -/
def documentOf (response : Http.Response) : Except CallFault Json :=
  if response.isSuccess then
    match response.content with
    | .empty => .ok .null
    | .document value => .ok value
    | .malformed defect _ => .error (.notDocument defect)
    | .text _ => .error (.notDocument { defect := .expectingValue, offset := 0 })
  else .error (errorOf response)

end ErrorReading

end CyberRange
