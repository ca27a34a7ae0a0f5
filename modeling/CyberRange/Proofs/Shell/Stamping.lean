import CyberRange.Proofs.FileTree.Times
import CyberRange.Proofs.Shell.Touch

namespace CyberRange

/-! Where the times of touched paths come from.

A directory gets a reading of the clock of the processor.  A file gets the time of the system,
without a reading, so the two come from one clock only if the processor has none of its own.
-/

namespace Clock

variable {now time : Timestamp} {clock before after : Clock}

/-- A time that a clock has returned between two of its states. -/
def Returned (now : Timestamp) (before after : Clock) (time : Timestamp) : Prop :=
  ∃ readings, Gives now before readings after ∧ .ok time ∈ readings

theorem returned_read (shown : (clock.read now).1 = .ok time) :
    Returned now clock (clock.read now).2 time :=
  ⟨[(clock.read now).1], .reading (.nothing _), List.mem_singleton.mpr shown.symm⟩

theorem eq_of_returned_constant {shown : Timestamp}
    (returned : Returned now (.scripted (.constant (.ok shown))) after time) : time = shown := by
  obtain ⟨readings, gives, member⟩ := returned
  -- a constant clock is the same clock after a reading, so the readings carry the induction
  generalize same : Clock.scripted (.constant (.ok shown)) = start at gives
  induction gives with
  | nothing => exact absurd member List.not_mem_nil
  | reading further induction =>
      subst same
      rcases List.mem_cons.mp member with first | later
      · exact Except.ok.inj first
      · exact induction later rfl

end Clock

/-- A new time is one that the clock has returned meanwhile; so what holds of all that the clock
returns and of all times before holds of the times that are listed afterwards. -/
structure FromClock (now : Timestamp) (clock later : Clock) (before after : FileSystem)
    (time : Timestamp) : Prop where
  returned : clock.Returned now later time
  listed : ∀ ofClock : Timestamp → Prop,
    (∀ shown, clock.Returned now later shown → ofClock shown) →
    (before.root.Everywhere fun node => ofClock node.modified) →
    ∀ path nodes, after.list path = .ok nodes → ∀ node ∈ nodes, ofClock node.modified

theorem FileSystem.Retimed.fromClock {now time : Timestamp} {clock later : Clock}
    {before after : FileSystem} {path : String} (retimed : before.Retimed after path time)
    (returned : clock.Returned now later time) : FromClock now clock later before after time where
  returned := returned
  listed ofClock given earlier _ _ found :=
    everywhere_list (retimed.everywhere ofClock earlier (given time returned)) found

namespace Processor

variable {processor : Processor} {now : Timestamp} {line path : String} {others : List String}

theorem execute_touch (typed : Text.words line = "touch" :: path :: others) (now : Timestamp)
    (processor : Processor) :
    processor.execute now line =
      (settle (processor.touch now (path :: others)).1,
        (processor.touch now (path :: others)).2.record line) := by
  have known : Verb.ofName? "touch" = some .touch := Verb.ofName?_name .touch
  simp only [execute, start, typed, known, dispatch, attempt, touch_record, map_caught]

/-- Touching that succeeds has read the clock once and stamped a directory, or has written a
file and has not read the clock. -/
theorem touch_of_success
    (done : (settle (processor.touch now (path :: others)).1).succeeds = true) :
    (processor.files.IsDirectory (processor.files.way path) ∧
      ∃ time, (processor.clock.read now).1 = .ok time ∧
        (processor.touch now (path :: others)).2 = { processor with
          clock := (processor.clock.read now).2
          files := processor.files.change path fun node => { node with modified := time } }) ∨
    ¬ processor.files.IsDirectory (processor.files.way path) ∧
      ∃ file after, processor.files.write now path "" = .ok (file, after) ∧
        (processor.touch now (path :: others)).2 = { processor with files := after } := by
  by_cases folder : processor.files.IsDirectory (processor.files.way path)
  · refine .inl ⟨folder, ?_⟩
    cases shown : (processor.clock.read now).1 with
    | ok time => exact ⟨time, rfl, congrArg Prod.snd (touch_of_directory folder shown others)⟩
    | error fault =>
        have failed : (processor.touch now (path :: others)).1 = .error (.clock fault) := by
          simp only [touch, if_pos (FileSystem.resolve_any_isDirectory.mpr folder), stamp,
            readClock, shown]
        rw [failed, settle, Failure.not_succeeds] at done
        exact absurd done Bool.false_ne_true
  · refine .inr ⟨folder, ?_⟩
    have touched := touch_of_free folder now others
    cases written : processor.files.write now path "" with
    | ok outcome =>
        exact ⟨outcome.1, outcome.2, rfl,
          congrArg Prod.snd (touched.trans (createFile_of_ok written))⟩
    | error fault =>
        rw [touched, createFile_of_error written, settle, Failure.not_succeeds] at done
        exact absurd done Bool.false_ne_true

/-- A path that has been touched leads to a node with a new time, and all other nodes keep
theirs.  A directory gets the one reading that the command has taken, and a file the time of the
system, without a reading; so the new time is one of the clock, and listings are by one clock,
if the path leads to a directory or the processor goes by the system. -/
theorem touch_retimes (typed : Text.words line = "touch" :: path :: others)
    (done : (processor.execute now line).1.succeeds = true) :
    let files := processor.files
    let later := (processor.execute now line).2
    let folder := files.IsDirectory (files.way path)
    ∃ time, files.Retimed later.files path time ∧
      (files.root.Sound → ∀ way, way ≠ files.way path →
        later.files.root.time? way = files.root.time? way) ∧
      (folder → (processor.clock.read now).1 = .ok time ∧
        later.clock = (processor.clock.read now).2) ∧
      (¬ folder → time = now ∧ later.clock = processor.clock) ∧
      (folder ∨ processor.clock = .system →
        FromClock now processor.clock later.clock files later.files time) := by
  intro files later folder
  have run := execute_touch typed now processor
  have files_eq : later.files = (processor.touch now (path :: others)).2.files :=
    congrArg (fun outcome => outcome.2.files) run
  have clock_eq : later.clock = (processor.touch now (path :: others)).2.clock :=
    congrArg (fun outcome => outcome.2.clock) run
  rw [run] at done
  rcases touch_of_success done with
    ⟨there, time, shown, touched⟩ | ⟨free, file, after, written, touched⟩
  · rw [touched] at files_eq clock_eq
    have retimed : files.Retimed later.files path time := by
      rw [files_eq]
      exact FileSystem.retimed_change there time
    have returned : processor.clock.Returned now later.clock time := by
      rw [clock_eq]
      exact Clock.returned_read shown
    exact ⟨time, retimed, fun sound way different => retimed.elsewhere_of_sound sound different,
      fun _ => ⟨shown, clock_eq⟩, fun absent => absurd there absent,
      fun _ => retimed.fromClock returned⟩
  · rw [touched] at files_eq clock_eq
    have retimed : files.Retimed later.files path now := by
      rw [files_eq]
      exact FileSystem.retimed_write free written
    refine ⟨now, retimed, fun sound way different => retimed.elsewhere_of_sound sound different,
      fun there => absurd there free, fun _ => ⟨rfl, clock_eq⟩, fun shared => ?_⟩
    have system : processor.clock = .system := shared.resolve_left free
    have returned : processor.clock.Returned now later.clock now := by
      rw [clock_eq, system]
      exact Clock.returned_read rfl
    exact retimed.fromClock returned

/-- With a clock of its own, a processor stamps home by it however that is spelled; without one
it gives a file that it writes over the time of its clock, which is that of the system. -/
theorem touch_retimes_home_and_notes :
    let shown : Timestamp := { (default : Timestamp) with year := 2000 }
    let clocked := create (.atHome (.seed default)) (.create .standard .instant (.constant 0.5))
      (.scripted (.constant (.ok shown)))
    let plain := fresh default .instant (.constant 0.5)
    Text.words "touch tools/../." = ["touch", "tools/../."] ∧
      (clocked.execute default "touch tools/../.").1.succeeds = true ∧
      clocked.files.IsDirectory (clocked.files.way "tools/../.") ∧
      clocked.files.Retimed (clocked.execute default "touch tools/../.").2.files "tools/../." shown ∧
      Text.words "touch notes.txt" = ["touch", "notes.txt"] ∧
      (plain.execute default "touch notes.txt").1.succeeds = true ∧
      plain.files.Retimed (plain.execute default "touch notes.txt").2.files "notes.txt" default ∧
      FromClock default plain.clock (plain.execute default "touch notes.txt").2.clock plain.files
        (plain.execute default "touch notes.txt").2.files default := by
  intro shown clocked plain
  have typedHome : Text.words "touch tools/../." = ["touch", "tools/../."] := by decide +kernel
  have typedNotes : Text.words "touch notes.txt" = ["touch", "notes.txt"] := by decide +kernel
  have doneHome : (clocked.execute default "touch tools/../.").1.succeeds = true := by
    decide +kernel
  have doneNotes : (plain.execute default "touch notes.txt").1.succeeds = true := by
    decide +kernel
  have folder : clocked.files.IsDirectory (clocked.files.way "tools/../.") := by decide +kernel
  have file : ¬ plain.files.IsDirectory (plain.files.way "notes.txt") := by decide +kernel
  obtain ⟨home, retimedHome, -, read, -⟩ := touch_retimes typedHome doneHome
  obtain ⟨notes, retimedNotes, -, -, unread, shared⟩ := touch_retimes typedNotes doneNotes
  obtain rfl : shown = home := Except.ok.inj (read folder).1
  obtain ⟨rfl, -⟩ := unread file
  exact ⟨typedHome, doneHome, folder, retimedHome, typedNotes, doneNotes, retimedNotes,
    shared (.inr rfl)⟩

/-- A new file has the time of the system, which the clock of the processor has not shown. -/
theorem created_file_not_of_clock :
    let shown : Timestamp := { (default : Timestamp) with year := 2000 }
    let processor := create (.atHome (.seed default)) (.create .standard .instant (.constant 0.5))
      (.scripted (.constant (.ok shown)))
    let later := (processor.execute default "touch report.txt").2
    (processor.execute default "touch report.txt").1.succeeds = true ∧
      ∃ node, later.files.resolve "report.txt" = some node ∧
        ¬ processor.clock.Returned default later.clock node.modified := by
  intro shown processor later
  have done : (processor.execute default "touch report.txt").1.succeeds = true := by
    decide +kernel
  have system : (later.files.resolve "report.txt").map Node.modified = some default := by
    decide +kernel
  obtain ⟨node, leads, time⟩ := Option.map_eq_some_iff.mp system
  refine ⟨done, node, leads, fun returned => ?_⟩
  have same : node.modified = shown := Clock.eq_of_returned_constant returned
  rw [time] at same
  exact absurd same (by decide)

end Processor

end CyberRange
