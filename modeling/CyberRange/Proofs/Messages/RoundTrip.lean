import CyberRange.Messages.Session

namespace CyberRange

/-! What is written about sessions can be read again, and gives what was written. -/

namespace Reader

theorem required_of_field? {record value : Json} {name : String} {read : Json → Checked α}
    {result : α} (found : record.field? name = some value) (valid : read value = .valid result) :
    required record name read = .valid result := by
  rw [required, found]
  exact congrArg (Checked.under (.key name)) valid

theorem items_map {read : Json → Checked α} {write : α → Json}
    (inverse : ∀ value, read (write value) = .valid value) (values : List α) :
    items read (values.map write) = .valid values := by
  suffices placed : ∀ place : Nat → Nat,
      Checked.sequence ((values.map write).mapIdx fun position value =>
        (read value).under (.index (place position))) = .valid values from placed id
  induction values with
  | nil => exact fun _ => rfl
  | cons value rest induction =>
      intro place
      have others := induction fun position => place (position + 1)
      rw [List.map_cons, List.mapIdx_cons, inverse, Checked.sequence, others]
      rfl

theorem listOf_map {read : Json → Checked α} {write : α → Json}
    (inverse : ∀ value, read (write value) = .valid value) (values : List α) :
    listOf read (.list (values.map write)) = .valid values :=
  items_map inverse values

end Reader

theorem ScreenBlock.ofJson_toJson (block : ScreenBlock) : ofJson block.toJson = .valid block :=
  rfl

theorem SessionState.ofJson_toJson (state : SessionState) : ofJson state.toJson = .valid state := by
  have each : ∀ block : ScreenBlock,
      Reader.record "TranscriptEntryModel" ScreenBlock.ofJson block.toJson = .valid block :=
    ScreenBlock.ofJson_toJson
  have transcript : Reader.required state.toJson "transcript"
      (Reader.listOf (Reader.record "TranscriptEntryModel" ScreenBlock.ofJson)) =
      .valid state.transcript :=
    Reader.required_of_field? rfl (Reader.listOf_map each state.transcript)
  rw [ofJson, transcript]
  rfl

theorem SessionList.ofJson_toJson (list : SessionList) : ofJson list.toJson = .valid list := by
  have each : ∀ id : String, Reader.text (.text id) = .valid id := fun _ => rfl
  have ids : Reader.required list.toJson "session_ids" (Reader.listOf Reader.text) =
      .valid list.sessionIds :=
    Reader.required_of_field? rfl (Reader.listOf_map each list.sessionIds)
  rw [ofJson, ids]
  rfl

theorem CommandReport.ofJson_toJson (report : CommandReport) :
    ofJson report.toJson = .valid report := by
  cases report
  rfl

theorem RecalledLine.ofJson_toJson (line : RecalledLine) :
    ofJson line.toJson = .valid line := by
  obtain ⟨direction, entry⟩ := line
  cases direction <;> rfl

theorem Deletion.ofJson_toJson (deletion : Deletion) :
    ofJson deletion.toJson = .valid deletion := by
  cases deletion
  rfl

end CyberRange
