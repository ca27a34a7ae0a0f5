import CyberRange.FileTree.Form
import CyberRange.Messages.Catalogue
import CyberRange.Messages.Session
import CyberRange.Settings

namespace CyberRange

/-! The records of the interface by their names: reading one gives the document
that it is written as. -/

structure RecordForm where
  name : String
  /-- Whether its fields may not be changed. -/
  frozen : Bool
  read : Timestamp → Json → Checked Json

namespace RecordForm

/-- A record that is read without regard to the time. -/
def plain (name : String) (read : Json → Checked α) (write : α → Json) : RecordForm :=
  { name, frozen := false, read := fun _ input => (read input).map write }

def frozenPlain (name : String) (read : Json → Checked α) (write : α → Json) : RecordForm :=
  { plain name read write with frozen := true }

def all : List RecordForm :=
  [{ name := "FileSystemNode", frozen := false,
     read := fun now input => (Node.ofJson now input).map Node.toFullJson },
    frozenPlain "Vulnerability" Vulnerability.ofJson Vulnerability.toJson,
    frozenPlain "NetworkTarget" Target.ofJson Target.toJson,
    plain "PortInfo" PortInfo.ofJson PortInfo.toJson,
    plain "ScanResult" ScanResult.ofJson ScanResult.toJson,
    plain "NetworkResponse" NetworkResponse.ofJson NetworkResponse.toJson,
    plain "CommandResult" CommandResult.ofJson CommandResult.toJson,
    { name := "TranscriptEntry", frozen := false,
      read := fun now input =>
        (TranscriptEntry.ofJson now input).map fun entry => entry.toJsonWith Timestamp.wire },
    plain "LabSettings" Settings.ofJson Settings.toJson,
    plain "TranscriptEntryModel" ScreenBlock.ofJson ScreenBlock.toJson,
    plain "SessionStateResponse" SessionState.ofJson SessionState.toJson,
    plain "SessionListResponse" SessionList.ofJson SessionList.toJson,
    plain "ExecuteRequest" CommandOrder.ofJson CommandOrder.toJson,
    plain "ExecuteResponse" CommandReport.ofJson CommandReport.toJson,
    plain "HistoryResponse" RecalledLine.ofJson RecalledLine.toJson,
    plain "DeleteSessionResponse" Deletion.ofJson Deletion.toJson,
    plain "VulnerabilityModel" FlawEntry.ofJson FlawEntry.toJson,
    plain "TargetModel" TargetEntry.ofJson TargetEntry.toJson,
    plain "TargetListResponse" TargetList.ofJson TargetList.toJson,
    plain "ErrorResponse" ErrorReport.ofJson ErrorReport.toJson,
    plain "HealthResponse" Health.ofJson Health.toJson]

def find? (name : String) : Option RecordForm :=
  all.find? fun form => form.name == name

inductive ChangeFault where
  | frozen (field : String)
  | unknownField (record field : String)
deriving Repr, DecidableEq

/-- Changes a field of a written record; what is put there is not checked. -/
def change (form : RecordForm) (field : String) (value : Json) (document : Json) :
    Except ChangeFault Json :=
  match document with
  | .object fields =>
      if form.frozen then .error (.frozen field)
      else if Entries.has field fields then .ok (.object (Entries.put field value fields))
      else .error (.unknownField form.name field)
  | other => .ok other

def findings (form : RecordForm) (document : Json) : List (String × Json) :=
  let isNull := fun field => match document.field? field with
    | some .null => true
    | _ => false
  if form.name = "CommandResult" then
    [("is_error", .bool (match document.field? "type" with
      | some (.text name) => name == ResultType.error.name
      | _ => false))]
  else if form.name = "ScanResult" then [("is_up", .bool (isNull "error"))]
  else if form.name = "NetworkResponse" then [("resolved", .bool (!isNull "host"))]
  else []

end RecordForm

end CyberRange
