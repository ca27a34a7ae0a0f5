import CyberRange.Catalogue.Records
import CyberRange.Service.Refusal
import CyberRange.Proofs.Service.Settings
import CyberRange.Proofs.Validation.Locations
import Mathlib.Data.List.Forall2

/-! Reports of issues in given records.

Two records have a rule of their own, which relates several fields: files have no children,
and the longest delay is not below the shortest.  A broken rule is reported with the reason
itself among the details, and that has no written form, so a report with such an issue is
never answered; every other report of a document that can be written is.
-/

namespace CyberRange

namespace RecordForm

/-- How the rule of a record is broken, and what is said about it. -/
inductive Breaks : String → Problem → Json → Prop where
  | childrenOfFile {input : Json} {name : String} {children : List (String × Json)}
      (named : input.field? "name" = some (.text name))
      (isFile : input.field? "type" = some (.text NodeKind.file.name))
      (given : input.field? "children" = some (.object children)) :
      Breaks "FileSystemNode" (.rejected ("File node '" ++ name ++ "' cannot have children"))
        input
  | reversedWindow {input : Json} {low high : Int}
      (shortest : Reader.defaulting input "latency_min_ms" 200 (Reader.atLeast 0) = .valid low)
      (longest : Reader.defaulting input "latency_max_ms" 700 (Reader.atLeast 0) = .valid high)
      (reversed : high < low) :
      Breaks "LabSettings"
        (.rejected ("latency_max_ms (" ++ toString high ++ ") must be >= latency_min_ms (" ++
          toString low ++ ")"))
        input

end RecordForm

section Records

open Reader

variable {rule : Problem → Json → Prop}

theorem Vulnerability.ofJson_accurate : Accurate rule ofJson :=
  fun _ => by simp [ofJson]

theorem Target.ofJson_accurate : Accurate rule ofJson := by
  have flaws : Accurate rule (tupleOf (record "Vulnerability" Vulnerability.ofJson)) :=
    tupleOf_accurate (record_accurate _ Vulnerability.ofJson_accurate)
  exact fun _ => by simp [ofJson, flaws]

theorem PortInfo.ofJson_accurate : Accurate rule ofJson :=
  fun _ => by simp [ofJson]

theorem ScanResult.ofJson_accurate : Accurate rule ofJson := by
  have ports : Accurate rule (listOf (record "PortInfo" PortInfo.ofJson)) :=
    listOf_accurate (record_accurate _ PortInfo.ofJson_accurate)
  exact fun _ => by simp [ofJson, ports]

theorem NetworkResponse.ofJson_accurate : Accurate rule ofJson :=
  fun _ => by simp [ofJson]

theorem CommandResult.ofJson_accurate : Accurate rule ofJson :=
  fun _ => by simp [ofJson]

theorem TranscriptEntry.ofJson_accurate (now : Timestamp) : Accurate rule (ofJson now) :=
  fun _ => by simp [ofJson]

theorem ScreenBlock.ofJson_accurate : Accurate rule ofJson :=
  fun _ => by simp [ofJson]

theorem SessionState.ofJson_accurate : Accurate rule ofJson := by
  have blocks : Accurate rule (listOf (record "TranscriptEntryModel" ScreenBlock.ofJson)) :=
    listOf_accurate (record_accurate _ ScreenBlock.ofJson_accurate)
  exact fun _ => by simp [ofJson, blocks]

theorem SessionList.ofJson_accurate : Accurate rule ofJson :=
  fun _ => by simp [ofJson]

theorem CommandOrder.ofJson_accurate : Accurate rule ofJson :=
  fun _ => by simp [ofJson]

theorem CommandReport.ofJson_accurate : Accurate rule ofJson :=
  fun _ => by simp [ofJson]

theorem RecalledLine.ofJson_accurate : Accurate rule ofJson :=
  fun _ => by simp [ofJson]

theorem Deletion.ofJson_accurate : Accurate rule ofJson :=
  fun _ => by simp [ofJson]

theorem FlawEntry.ofJson_accurate : Accurate rule ofJson :=
  fun _ => by simp [ofJson]

theorem TargetEntry.ofJson_accurate : Accurate rule ofJson := by
  have flaws : Accurate rule (listOf (record "VulnerabilityModel" FlawEntry.ofJson)) :=
    listOf_accurate (record_accurate _ FlawEntry.ofJson_accurate)
  exact fun _ => by simp [ofJson, flaws]

theorem TargetList.ofJson_accurate : Accurate rule ofJson := by
  have targets : Accurate rule (listOf (record "TargetModel" TargetEntry.ofJson)) :=
    listOf_accurate (record_accurate _ TargetEntry.ofJson_accurate)
  exact fun _ => by simp [ofJson, targets]

theorem ErrorReport.ofJson_accurate : Accurate rule ofJson := by
  have details : Accurate rule (orNull (mappingOf anything)) :=
    orNull_accurate (mappingOf_accurate anything_accurate)
  exact fun _ => by simp [ofJson, details]

theorem Health.ofJson_accurate : Accurate rule ofJson :=
  fun _ => by simp [ofJson]

end Records

namespace Reader

variable {α : Type} {input : Json}

theorem required_eq_valid_iff {name : String} {read : Json → Checked α} {value : α} :
    required input name read = .valid value ↔
      ∃ given, input.field? name = some given ∧ read given = .valid value := by
  rw [required]
  cases input.field? name <;> simp [Checked.under_eq_valid_iff]

theorem text_eq_valid_iff {value : String} : text input = .valid value ↔ input = .text value := by
  cases input <;> simp [text, Checked.fail]

theorem caseOf_eq_valid_iff {family : List (String × α)} {value : α} :
    caseOf family input = .valid value ↔
      ∃ name, input = .text name ∧ Entries.get? name family = some value := by
  cases input with
  | text name => cases found : Entries.get? name family <;> simp [caseOf, found, Checked.fail]
  | _ => simp [caseOf, Checked.fail]

end Reader

theorem NodeKind.name_of_get? {name : String} {kind : NodeKind}
    (found : Entries.get? name family = some kind) : kind.name = name := by
  have listed : ∀ entry ∈ family, entry.2.name = entry.1 := by decide
  exact listed _ (Entries.mem_of_get? found)

namespace Node

variable {now : Timestamp} {input : Json} {fields : List (String × Json)} {node : Node}

theorem fields_of_assemble {children : Checked (Option (List (String × Node)))}
    (made : assemble now input children = .valid node) :
    Reader.required input "name" Reader.text = .valid node.name ∧
      Reader.required input "type" (Reader.caseOf NodeKind.family) = .valid node.kind ∧
      children = .valid node.children := by
  simp only [assemble, Checked.map_eq, Checked.seq_eq, Checked.apply_eq_valid_iff,
    Checked.map_eq_valid_iff] at made
  obtain ⟨_, _, ⟨_, _, ⟨_, _, ⟨_, _, ⟨_, _, ⟨_, _, ⟨_, _, ⟨_, _, ⟨_, named, rfl⟩, kinded, rfl⟩, -, rfl⟩,
    mapped, rfl⟩, -, rfl⟩, -, rfl⟩, -, rfl⟩, -, rfl⟩, -, rfl⟩ := made
  exact ⟨named, kinded, mapped⟩

theorem field?_of_childrenField {members : List (String × Node)}
    (read : childrenField now fields = .valid (some members)) :
    ∃ children, (Json.object fields).field? "children" = some (.object children) := by
  induction fields with
  | nil => simp [childrenField] at read
  | cons field rest induction =>
      obtain ⟨name, value⟩ := field
      rw [childrenField] at read
      split at read
      next same =>
        rw [Checked.under_eq_valid_iff] at read
        subst same
        cases value with
        | object children => exact ⟨children, by simp [Json.field?, Entries.get?]⟩
        | _ => simp [readMapping, Checked.fail] at read
      next other =>
        obtain ⟨children, found⟩ := induction read
        exact ⟨children, by simpa [Json.field?, Entries.get?, other] using found⟩

theorem settle_accurate
    (made : assemble now (.object fields) (childrenField now fields) = .valid node) :
    (settle (.object fields) node).Accurate (RecordForm.Breaks "FileSystemNode")
      (.object fields) := by
  obtain ⟨named, kinded, mapped⟩ := fields_of_assemble made
  obtain ⟨_, called, isText⟩ := Reader.required_eq_valid_iff.mp named
  obtain ⟨_, typed, isCase⟩ := Reader.required_eq_valid_iff.mp kinded
  obtain rfl := Reader.text_eq_valid_iff.mp isText
  obtain ⟨_, rfl, listed⟩ := Reader.caseOf_eq_valid_iff.mp isCase
  rw [← NodeKind.name_of_get? listed] at typed
  rw [settle]
  split
  · exact Checked.accurate_valid _
  · exact Checked.accurate_valid _
  · exact Checked.accurate_valid _
  next isFile given =>
    rw [given] at mapped
    obtain ⟨children, present⟩ := field?_of_childrenField mapped
    exact Checked.accurate_rejected (.childrenOfFile called (isFile ▸ typed) present)

theorem assemble_accurate {rule : Problem → Json → Prop}
    {children : Checked (Option (List (String × Node)))} (below : children.Accurate rule input) :
    (assemble now input children).Accurate rule input := by
  simp [assemble, below]

mutual

theorem ofJson_accurate (now : Timestamp) :
    ∀ input, (ofJson now input).Accurate (RecordForm.Breaks "FileSystemNode") input
  | .object fields => by
      rw [ofJson]
      exact (assemble_accurate (childrenField_accurate now fields fun _ member => member)).bind
        fun _ made => settle_accurate made
  | .null | .bool _ | .int _ | .float _ | .text _ | .list _ => Checked.accurate_fail nofun rfl

/-- Only some of the fields are left to look at; issues are located in the whole record. -/
theorem childrenField_accurate (now : Timestamp) {whole : List (String × Json)} :
    ∀ fields, (∀ field ∈ fields, field ∈ whole) →
      (childrenField now fields).Accurate (RecordForm.Breaks "FileSystemNode") (.object whole)
  | [], _ => Checked.accurate_valid _
  | (name, value) :: rest, inside => by
      rw [childrenField]
      split
      next same =>
        subst same
        exact (readMapping_accurate now value).under (.key (inside _ List.mem_cons_self))
      next =>
        exact childrenField_accurate now rest fun field member =>
          inside field (List.mem_cons_of_mem _ member)

theorem readMapping_accurate (now : Timestamp) :
    ∀ input, (readMapping now input).Accurate (RecordForm.Breaks "FileSystemNode") input
  | .object fields => by
      rw [readMapping]
      exact Checked.accurate_map_iff.mpr (readMembers_accurate now fields fun _ member => member)
  | .null => Checked.accurate_valid _
  | .bool _ | .int _ | .float _ | .text _ | .list _ => Checked.accurate_fail nofun rfl

theorem readMembers_accurate (now : Timestamp) {whole : List (String × Json)} :
    ∀ fields, (∀ field ∈ fields, field ∈ whole) →
      (readMembers now fields).Accurate (RecordForm.Breaks "FileSystemNode") (.object whole)
  | [], _ => Checked.accurate_valid _
  | (key, value) :: rest, inside => by
      rw [readMembers, Checked.accurate_apply_iff, Checked.accurate_map_iff]
      refine ⟨(ofJson_accurate now value).under (.key (inside _ List.mem_cons_self)), ?_⟩
      exact readMembers_accurate now rest fun field member =>
        inside field (List.mem_cons_of_mem _ member)

end

end Node

theorem Settings.ofJson_accurate :
    Reader.Accurate (RecordForm.Breaks "LabSettings") Settings.ofJson := by
  intro input
  refine Checked.Accurate.bind (by simp) fun settings made => ?_
  simp only [Checked.map_eq, Checked.seq_eq, Checked.apply_eq_valid_iff,
    Checked.map_eq_valid_iff] at made
  obtain ⟨_, _, ⟨_, _, ⟨_, shortest, rfl⟩, longest, rfl⟩, -, rfl⟩ := made
  rw [checkWindow]
  split
  next reversed =>
    exact Checked.accurate_rejected (.reversedWindow shortest longest reversed)
  next => exact Checked.accurate_valid _

namespace RecordForm

open Reader (map_accurate)

variable {form : RecordForm}

/-- Whatever record is read, its issues are located, and only its own rule gives one that
cannot be written. -/
theorem read_accurate (known : form ∈ all) (now : Timestamp) :
    Reader.Accurate (Breaks form.name) (form.read now) := by
  simp only [all, List.mem_cons, List.not_mem_nil, or_false] at known
  rcases known with rfl | rfl | rfl | rfl | rfl | rfl | rfl | rfl | rfl | rfl | rfl | rfl | rfl |
    rfl | rfl | rfl | rfl | rfl | rfl | rfl | rfl
  · exact map_accurate (Node.ofJson_accurate now) _
  · exact map_accurate Vulnerability.ofJson_accurate _
  · exact map_accurate Target.ofJson_accurate _
  · exact map_accurate PortInfo.ofJson_accurate _
  · exact map_accurate ScanResult.ofJson_accurate _
  · exact map_accurate NetworkResponse.ofJson_accurate _
  · exact map_accurate CommandResult.ofJson_accurate _
  · exact map_accurate (TranscriptEntry.ofJson_accurate now) _
  · exact map_accurate Settings.ofJson_accurate _
  · exact map_accurate ScreenBlock.ofJson_accurate _
  · exact map_accurate SessionState.ofJson_accurate _
  · exact map_accurate SessionList.ofJson_accurate _
  · exact map_accurate CommandOrder.ofJson_accurate _
  · exact map_accurate CommandReport.ofJson_accurate _
  · exact map_accurate RecalledLine.ofJson_accurate _
  · exact map_accurate Deletion.ofJson_accurate _
  · exact map_accurate FlawEntry.ofJson_accurate _
  · exact map_accurate TargetEntry.ofJson_accurate _
  · exact map_accurate TargetList.ofJson_accurate _
  · exact map_accurate ErrorReport.ofJson_accurate _
  · exact map_accurate Health.ofJson_accurate _

end RecordForm

theorem Problem.isWritable_eq_false_iff {problem : Problem} :
    problem.isWritable = false ↔ problem.code = "value_error" := by
  cases problem <;> simp [isWritable, code]

/-- What a response says about an issue. -/
structure Issue.ToldBy (issue : Issue) (item : Json) : Prop where
  type : item.field? "type" = some (.text issue.problem.code)
  place : item.field? "loc" = some (.list (issue.place.map Place.toJson))
  message : item.field? "msg" = some (.text issue.problem.message)

/-- A response that reports issues one by one, and that can be written itself. -/
structure Http.Response.Reports (response : Http.Response) (issues : List Issue) : Prop where
  status : response.status = 422
  body : ∃ body items, response.content = .document body ∧ body.hasUnwritable = false ∧
    body.field? "validation_errors" = some (.list items) ∧
    List.Forall₂ Issue.ToldBy issues items

theorem Issue.toldBy_toJson (issue : Issue) : issue.ToldBy issue.toJson :=
  ⟨rfl, rfl, rfl⟩

theorem Issue.toJson_writable {issue : Issue} (writable : issue.input.hasUnwritable = false) :
    issue.toJson.hasUnwritable = false := by
  have steps : Json.anyUnwritable (issue.place.map Place.toJson) = false := by
    refine Json.anyUnwritable_eq_false_iff.mpr fun item member => ?_
    obtain ⟨step, -, rfl⟩ := List.mem_map.mp member
    cases step <;> rfl
  have details : ∀ details, issue.problem.context = some details →
      Json.anyUnwritableField details = false := by
    intro details told
    cases found : issue.problem <;> simp [found, Problem.context] at told <;> subst told <;> rfl
  cases told : issue.problem.context with
  | none => simp [toJson, told, Json.hasUnwritable, Json.anyUnwritableField, steps, writable]
  | some given =>
      simp [toJson, told, Json.hasUnwritable, Json.anyUnwritableField, steps, writable,
        details given told]

namespace Refusal

variable {issues : List Issue}

/-- A report can be written unless some issue in it cannot. -/
theorem write_invalidData_iff :
    (∃ response, (invalidData issues).write = .ok response) ↔
      ∀ issue ∈ issues, issue.problem.code ≠ "value_error" ∧ issue.input.hasUnwritable = false := by
  have each : ∀ issue, unwritableIssue? issue = none ↔
      issue.problem.code ≠ "value_error" ∧ issue.input.hasUnwritable = false := by
    intro issue
    rw [ne_eq, ← Problem.isWritable_eq_false_iff, unwritableIssue?]
    cases issue.input.hasUnwritable <;> cases issue.problem.isWritable <;> simp
  simp only [← each, ← List.findSome?_eq_none_iff, write, unwritable?]
  cases issues.findSome? unwritableIssue? <;> simp

theorem write_invalidData_reports {response : Http.Response}
    (written : (invalidData issues).write = .ok response) : response.Reports issues := by
  have writable : ∀ issue ∈ issues, issue.toJson.hasUnwritable = false := fun issue member =>
    Issue.toJson_writable (write_invalidData_iff.mp ⟨response, written⟩ issue member).2
  have items : Json.anyUnwritable (issues.map Issue.toJson) = false :=
    Json.anyUnwritable_eq_false_iff.mpr (List.forall_mem_map.mpr writable)
  rw [write] at written
  split at written
  · cases written
  · obtain rfl : (invalidData issues).response = response := by simpa using written
    refine ⟨rfl, _, _, rfl, ?_, rfl, ?_⟩
    · simp [body, Json.hasUnwritable, Json.anyUnwritableField, items]
    · exact List.forall₂_map_right_iff.mpr (List.forall₂_same.mpr fun issue _ =>
        issue.toldBy_toJson)

/-- Of issues that show only what can be written, a broken rule stops the report. -/
theorem write_invalidData_of_broken
    (finite : ∀ issue ∈ issues, issue.input.hasUnwritable = false)
    (broken : ∃ issue ∈ issues, issue.problem.code = "value_error") :
    (invalidData issues).write = .error .notPlain := by
  obtain ⟨issue, member, code⟩ := broken
  cases found : issues.findSome? unwritableIssue? with
  | none =>
      have passed := List.findSome?_eq_none_iff.mp found issue member
      rw [← Problem.isWritable_eq_false_iff] at code
      simp [unwritableIssue?, finite issue member, code] at passed
  | some reason =>
      obtain ⟨culprit, among, stops⟩ := List.exists_of_findSome?_eq_some found
      obtain ⟨-, rfl⟩ : _ ∧ .notPlain = reason := by
        simpa [unwritableIssue?, finite culprit among] using stops
      rw [write, unwritable?, found]

end Refusal

namespace RecordForm

/-- What becomes of the issues of a record.  A report of them is written unless one is a broken
rule of the record's own, or shows a number that JSON has no form for; the latter takes a
document with such a number in it. -/
structure Answered (form : RecordForm) (document : Json) (issues : List Issue) : Prop where
  located : ∀ issue ∈ issues, issue.LocatedIn document
  broken : ∀ issue ∈ issues, issue.problem.code = "value_error" →
    Breaks form.name issue.problem issue.input
  written_iff : (∃ response, (Refusal.invalidData issues).write = .ok response) ↔
    ∀ issue ∈ issues, issue.problem.code ≠ "value_error" ∧ issue.input.hasUnwritable = false
  finite : document.hasUnwritable = false → ∀ issue ∈ issues, issue.input.hasUnwritable = false
  refused : document.hasUnwritable = false → (∃ issue ∈ issues, issue.problem.code = "value_error") →
    (Refusal.invalidData issues).write = .error .notPlain
  reported : ∀ response, (Refusal.invalidData issues).write = .ok response →
    response.Reports issues

theorem issues_answered {form : RecordForm} (known : form ∈ all) (now : Timestamp)
    {document : Json} {issues : List Issue}
    (failed : Reader.record form.name (form.read now) document = .invalid issues) :
    form.Answered document issues := by
  have accurate : (Checked.invalid issues : Checked Json).Accurate (Breaks form.name) document := by
    rw [← failed]
    exact Reader.record_accurate form.name (read_accurate known now) document
  have finite : document.hasUnwritable = false →
      ∀ issue ∈ issues, issue.input.hasUnwritable = false := fun writable issue member =>
    (accurate issue member).1.writable writable
  exact
    { located := fun issue member => (accurate issue member).1
      broken := fun issue member code =>
        (accurate issue member).2 (Problem.isWritable_eq_false_iff.mpr code)
      written_iff := Refusal.write_invalidData_iff
      finite
      refused := fun writable => Refusal.write_invalidData_of_broken (finite writable)
      reported := fun _ => Refusal.write_invalidData_reports }

theorem issues_answered_two_limits :
    ∃ issues, Reader.record "LabSettings" ((plain "LabSettings" Settings.ofJson Settings.toJson).read
        default) (.object [("latency_min_ms", .null), ("max_sessions", .int 0)]) =
          .invalid issues ∧
      (plain "LabSettings" Settings.ofJson Settings.toJson).Answered
        (.object [("latency_min_ms", .null), ("max_sessions", .int 0)]) issues :=
  ⟨_, rfl, issues_answered (by simp [all]) default rfl⟩

/-- A window of delays that ends before it starts is an issue, and is never answered. -/
theorem reversed_window_unanswered :
    ∃ form ∈ all, ∃ now issues, form.name = "LabSettings" ∧
      Reader.record form.name (form.read now)
          (.object [("latency_min_ms", .int 500), ("latency_max_ms", .int 100)]) =
        .invalid issues ∧
      ∀ response, (Refusal.invalidData issues).write ≠ .ok response := by
  refine ⟨plain "LabSettings" Settings.ofJson Settings.toJson, by simp [all], default, _, rfl, rfl, ?_⟩
  intro response written
  cases written

end RecordForm

end CyberRange
