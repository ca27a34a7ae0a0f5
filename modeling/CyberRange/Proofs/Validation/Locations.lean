import CyberRange.Validation.Reader

/-! Where issues are.

The place of an issue is a way into the document that was read, and what the issue shows
as its input is what stands there.  Only a missing field is placed where nothing stands,
one step below the record that lacks it.  Everything a report shows is thus a part of the
document, so a report of a document that can be written can itself be written, unless a
record's own rule is broken.
-/

namespace CyberRange

namespace Json

/-- A way into a document leads to what stands at its end. -/
inductive Leads : Json → List Place → Json → Prop where
  | here (document : Json) : Leads document [] document
  | key {fields : List (String × Json)} {name : String} {value found : Json}
      {place : List Place} (member : (name, value) ∈ fields) (further : Leads value place found) :
      Leads (.object fields) (.key name :: place) found
  | index {items : List Json} {position : Nat} {value found : Json} {place : List Place}
      (standing : items[position]? = some value) (further : Leads value place found) :
      Leads (.list items) (.index position :: place) found

theorem anyUnwritable_eq_false_iff {items : List Json} :
    anyUnwritable items = false ↔ ∀ item ∈ items, item.hasUnwritable = false := by
  induction items with
  | nil => simp [anyUnwritable]
  | cons item rest induction => simp [anyUnwritable, induction]

theorem anyUnwritableField_eq_false_iff {fields : List (String × Json)} :
    anyUnwritableField fields = false ↔ ∀ field ∈ fields, field.2.hasUnwritable = false := by
  induction fields with
  | nil => simp [anyUnwritableField]
  | cons field rest induction => simp [anyUnwritableField, induction]

/-- What can be written can be written in all its parts. -/
theorem Leads.writable {document found : Json} {place : List Place}
    (leads : document.Leads place found) (writable : document.hasUnwritable = false) :
    found.hasUnwritable = false := by
  induction leads with
  | here => exact writable
  | key member _ induction =>
      exact induction (anyUnwritableField_eq_false_iff.mp writable _ member)
  | index standing _ induction =>
      exact induction (anyUnwritable_eq_false_iff.mp writable _ (List.mem_of_getElem? standing))

theorem exists_of_field? {record value : Json} {name : String}
    (found : record.field? name = some value) :
    ∃ fields, record = .object fields ∧ (name, value) ∈ fields := by
  cases record with
  | object fields => exact ⟨fields, rfl, Entries.mem_of_get? found⟩
  | _ => simp [field?] at found

end Json

namespace Issue

inductive LocatedIn (document : Json) (issue : Issue) : Prop where
  | present (ordinary : issue.problem ≠ .missing)
      (leads : document.Leads issue.place issue.input)
  | absent {before : List Place} {name : String} (missing : issue.problem = .missing)
      (below : issue.place = before ++ [.key name]) (leads : document.Leads before issue.input)
      (unset : issue.input.field? name = none)

variable {document value : Json} {issue : Issue}

theorem LocatedIn.writable (located : issue.LocatedIn document)
    (writable : document.hasUnwritable = false) : issue.input.hasUnwritable = false := by
  cases located with
  | present _ leads => exact leads.writable writable
  | absent _ _ leads _ => exact leads.writable writable

/-- One step in front of every way: what is located in a part is located in the whole. -/
theorem LocatedIn.under {step : Place}
    (further : ∀ {place found}, value.Leads place found → document.Leads (step :: place) found)
    (located : issue.LocatedIn value) : (issue.under step).LocatedIn document := by
  cases located with
  | present ordinary leads => exact .present ordinary (further leads)
  | absent missing below leads unset =>
      refine .absent missing ?_ (further leads) unset
      exact congrArg (List.cons step) below

end Issue

namespace Checked

variable {α β : Type} {rule : Problem → Json → Prop} {document value : Json}
  {outcome : Checked α}

/-- The issues found in a document are located in it, and those that cannot be written
come from a rule. -/
def Accurate (rule : Problem → Json → Prop) (document : Json) (outcome : Checked α) : Prop :=
  ∀ issue ∈ outcome.issues, issue.LocatedIn document ∧
    (issue.problem.isWritable = false → rule issue.problem issue.input)

theorem accurate_valid (value : α) : (Checked.valid value).Accurate rule document :=
  nofun

theorem accurate_fail_of_rule {problem : Problem} (ordinary : problem ≠ .missing)
    (ruled : problem.isWritable = false → rule problem document) :
    (fail problem document : Checked α).Accurate rule document := by
  intro issue member
  obtain rfl := List.mem_singleton.mp member
  exact ⟨.present ordinary (.here document), ruled⟩

theorem accurate_rejected {reason : String} (ruled : rule (.rejected reason) document) :
    (fail (.rejected reason) document : Checked α).Accurate rule document :=
  accurate_fail_of_rule nofun fun _ => ruled

theorem accurate_fail {problem : Problem} (ordinary : problem ≠ .missing)
    (writable : problem.isWritable = true) :
    (fail problem document : Checked α).Accurate rule document :=
  accurate_fail_of_rule ordinary fun unwritable => by simp [writable] at unwritable

@[simp] theorem accurate_map_iff {change : α → β} :
    (outcome.map change).Accurate rule document ↔ outcome.Accurate rule document := by
  cases outcome <;> rfl

@[simp] theorem accurate_apply_iff {change : Checked (α → β)} :
    (change.apply outcome).Accurate rule document ↔
      change.Accurate rule document ∧ outcome.Accurate rule document := by
  rw [Accurate, issues_apply]
  exact List.forall_mem_append

theorem Accurate.bind {next : α → Checked β} (first : outcome.Accurate rule document)
    (second : ∀ value, outcome = .valid value → (next value).Accurate rule document) :
    (outcome.bind next).Accurate rule document := by
  cases outcome with
  | valid value => exact second value rfl
  | invalid _ => exact first

theorem Accurate.under {step : Place} (accurate : outcome.Accurate rule value)
    (further : ∀ {place found}, value.Leads place found → document.Leads (step :: place) found) :
    (outcome.under step).Accurate rule document := by
  cases outcome with
  | valid _ => exact accurate_valid _
  | invalid issues =>
      intro issue member
      obtain ⟨inner, there, rfl⟩ := List.mem_map.mp member
      obtain ⟨located, ruled⟩ := accurate inner there
      exact ⟨located.under further, ruled⟩

theorem Accurate.sequence {outcomes : List (Checked α)}
    (each : ∀ outcome ∈ outcomes, outcome.Accurate rule document) :
    (Checked.sequence outcomes).Accurate rule document := by
  induction outcomes with
  | nil => exact accurate_valid _
  | cons first rest induction =>
      refine accurate_apply_iff.mpr ⟨accurate_map_iff.mpr (each first List.mem_cons_self), ?_⟩
      exact induction fun outcome member => each outcome (List.mem_cons_of_mem _ member)

end Checked

namespace Reader

open Checked (accurate_valid accurate_fail accurate_map_iff)

variable {α β : Type} {rule : Problem → Json → Prop} {read : Json → Checked α}

/-- A reader that locates its issues, whatever it is given. -/
def Accurate (rule : Problem → Json → Prop) (read : Json → Checked α) : Prop :=
  ∀ input, (read input).Accurate rule input

theorem map_accurate (each : Accurate rule read) (change : α → β) :
    Accurate rule fun input => (read input).map change :=
  fun input => accurate_map_iff.mpr (each input)

@[simp] theorem text_accurate : Accurate rule text := by
  intro input
  cases input with
  | text _ => exact accurate_valid _
  | _ => exact accurate_fail nofun rfl

@[simp] theorem shortText_accurate (limit : Nat) : Accurate rule (shortText limit) := by
  refine fun input => (text_accurate input).bind fun value _ => ?_
  split
  · exact accurate_fail nofun rfl
  · exact accurate_valid _

theorem integerOfText_accurate (value : String) : Accurate rule (integerOfText value) := by
  intro input
  rw [integerOfText]
  split
  · exact accurate_fail nofun rfl
  · split
    · exact accurate_valid _
    · exact accurate_fail nofun rfl

theorem integerOfFloat_accurate (value : Float) : Accurate rule (integerOfFloat value) := by
  intro input
  rw [integerOfFloat]
  repeat' split
  all_goals first | exact accurate_valid _ | exact accurate_fail nofun rfl

@[simp] theorem integer_accurate : Accurate rule integer := by
  intro input
  cases input with
  | int _ => exact accurate_valid _
  | bool _ => exact accurate_valid _
  | float value => exact integerOfFloat_accurate value _
  | text value => exact integerOfText_accurate value _
  | _ => exact accurate_fail nofun rfl

@[simp] theorem atLeast_accurate (least : Int) : Accurate rule (atLeast least) := by
  refine fun input => (integer_accurate input).bind fun value _ => ?_
  split
  · exact accurate_fail nofun rfl
  · exact accurate_valid _

@[simp] theorem boolean_accurate : Accurate rule boolean := by
  intro input
  rw [boolean.eq_def]
  repeat' split
  all_goals first | exact accurate_valid _ | exact accurate_fail nofun rfl

/-- A value found in a closed family, or the one issue that there is none. -/
theorem named_accurate (problem : Problem) (ordinary : problem ≠ .missing)
    (writable : problem.isWritable = true) (family : List (String × α)) :
    Accurate rule fun input =>
      match input with
      | .text name =>
          match Entries.get? name family with
          | some found => .valid found
          | none => .fail problem input
      | _ => .fail problem input := by
  intro input
  cases input with
  | text name =>
      cases found : Entries.get? name family <;> simp only [found]
      · exact accurate_fail ordinary writable
      · exact accurate_valid _
  | _ => exact accurate_fail ordinary writable

@[simp] theorem caseOf_accurate (family : List (String × α)) : Accurate rule (caseOf family) :=
  named_accurate (.unknownCase (Entries.keys family)) nofun rfl family

@[simp] theorem optionOf_accurate (family : List (String × α)) : Accurate rule (optionOf family) :=
  named_accurate (.unknownOption (Entries.keys family)) nofun rfl family

theorem items_accurate (each : Accurate rule read) (values : List Json) :
    (items read values).Accurate rule (.list values) := by
  refine .sequence fun outcome member => ?_
  obtain ⟨position, inside, rfl⟩ := List.mem_mapIdx.mp member
  exact (each values[position]).under (.index (List.getElem?_eq_getElem inside))

@[simp] theorem listOf_accurate (each : Accurate rule read) : Accurate rule (listOf read) := by
  intro input
  cases input with
  | list values => exact items_accurate each values
  | _ => exact accurate_fail nofun rfl

@[simp] theorem tupleOf_accurate (each : Accurate rule read) : Accurate rule (tupleOf read) := by
  intro input
  cases input with
  | list values => exact items_accurate each values
  | _ => exact accurate_fail nofun rfl

@[simp] theorem mappingOf_accurate (each : Accurate rule read) : Accurate rule (mappingOf read) := by
  intro input
  cases input with
  | object fields =>
      refine .sequence fun outcome member => ?_
      obtain ⟨⟨name, value⟩, inside, rfl⟩ := List.mem_map.mp member
      exact accurate_map_iff.mpr ((each value).under (.key inside))
  | _ => exact accurate_fail nofun rfl

@[simp] theorem anything_accurate : Accurate rule anything :=
  fun _ => accurate_valid _

@[simp] theorem orNull_accurate (each : Accurate rule read) : Accurate rule (orNull read) := by
  intro input
  cases input with
  | null => exact accurate_valid _
  | _ => exact accurate_map_iff.mpr (each _)

theorem countedMoment_accurate (reading : Except Timestamp.DateFault Timestamp) :
    Accurate rule (countedMoment reading) := by
  intro input
  cases reading with
  | ok _ => exact accurate_valid _
  | error _ => exact accurate_fail nofun rfl

@[simp] theorem moment_accurate : Accurate rule moment := by
  intro input
  cases input with
  | text value =>
      rw [moment]
      split
      · exact accurate_valid _
      · exact accurate_valid _
      · exact accurate_fail nofun rfl
      · exact accurate_fail nofun rfl
  | int count => exact countedMoment_accurate _ _
  | float count => exact countedMoment_accurate _ _
  | _ => exact accurate_fail nofun rfl

variable {input : Json}

@[simp] theorem required_accurate (name : String) (each : Accurate rule read) :
    (required input name read).Accurate rule input := by
  rw [required]
  split
  next value found =>
    obtain ⟨fields, rfl, member⟩ := Json.exists_of_field? found
    exact (each value).under (.key member)
  next unset =>
    intro issue member
    obtain rfl := List.mem_singleton.mp member
    exact ⟨.absent rfl (List.nil_append _).symm (.here input) unset, nofun⟩

@[simp] theorem defaulting_accurate (name : String) (fallback : α) (each : Accurate rule read) :
    (defaulting input name fallback read).Accurate rule input := by
  rw [defaulting]
  split
  next value found =>
    obtain ⟨fields, rfl, member⟩ := Json.exists_of_field? found
    exact (each value).under (.key member)
  next => exact accurate_valid _

@[simp] theorem record_accurate (name : String) (each : Accurate rule read) :
    Accurate rule (record name read) := by
  intro input
  cases input with
  | object _ => exact each _
  | _ => exact accurate_fail nofun rfl

end Reader

end CyberRange
