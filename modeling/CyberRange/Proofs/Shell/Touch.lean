import CyberRange.Proofs.FileTree.FlatMap
import CyberRange.Proofs.Shell.Effects

namespace CyberRange

/-! Touching paths.

A path is looked up as a whole first, and taken apart only to write to it.  What is behind its
last slash is the last step of its way, so a part that can name no file leads to a directory if
the part in front of it does; then the path is not written to at all.
-/

namespace FileSystem

variable {files : FileSystem} {path : String} {way : List String}

/-- All ways above a directory lead to directories. -/
theorem IsDirectory.of_prefix {above : List String} (folder : files.IsDirectory way)
    (sound : files.root.Sound) (leads : above <+: way) : files.IsDirectory above := by
  obtain ⟨rest, rfl⟩ := leads
  cases rest with
  | nil => rwa [List.append_nil] at folder
  | cons step further =>
      by_contra notFolder
      rw [IsDirectory, sound.standing?_append_cons notFolder] at folder
      contradiction

/-- A path without a name that a file can have leads to a directory, if the part in front of
its last slash does. -/
theorem isDirectory_of_not_namesLeaf (sound : files.root.Sound)
    (homes : files.IsDirectory Path.home) (filled : (Path.split path).2 ≠ "")
    (unnamed : ¬ Path.NamesLeaf path) (parent : files.IsDirectory (files.way (Path.split path).1)) :
    files.IsDirectory (files.way path) := by
  by_cases tilde : path = "~"
  · rw [tilde]
    exact homes
  · have last : files.way path = Path.follow (files.way (Path.split path).1) (Path.split path).2 :=
      Path.normalize_split filled tilde
    rw [last, Path.follow]
    split
    · exact parent
    · rename_i notDot
      split
      · exact parent.of_prefix sound (List.dropLast_prefix _)
      · rename_i notDots
        exact absurd ⟨filled, notDot, notDots, tilde⟩ unnamed

/-- Where there is no directory, a write goes through, unless there is none to write to. -/
theorem write_of_free (sound : files.root.Sound) (homes : files.IsDirectory Path.home)
    (free : ¬ files.IsDirectory (files.way path)) (now : Timestamp) (content : String) :
    files.write now path content = .error ⟨.write, .notFound, path⟩ ∨
      ∃ name after, files.write now path content =
          .ok (.file now name content operatorName, after) ∧
        after.root.find? (files.way path) = some (.file now name content operatorName) := by
  by_cases leaf : Path.NamesLeaf path
  · rw [write_of_namesLeaf sound leaf]
    by_cases parent : files.IsDirectory (files.way path).dropLast
    · rw [if_pos parent, if_neg free]
      refine .inr ⟨_, _, rfl, ?_⟩
      obtain ⟨members, mapped⟩ := Option.isSome_iff_exists.mp
        ((children_find? sound (files.way path).dropLast).mpr parent)
      obtain ⟨folder, leads, children⟩ := Option.bind_eq_some_iff.mp mapped
      have parts : files.way path = (files.way path).dropLast ++ [(Path.split path).2] := by
        rw [FileSystem.way, Path.normalize_of_namesLeaf leaf, List.dropLast_concat]
      rw [parts, List.dropLast_concat]
      exact Node.find?_place_below leads children []
    · rw [if_neg parent]
      exact .inl rfl
  · refine .inl ?_
    rw [write_eq]
    cases found : (files.resolve (Path.split path).1).bind Node.children with
    | none => rfl
    | some members =>
        have parent : files.IsDirectory (files.way (Path.split path).1) := by
          rw [← children_find? sound, ← resolve, found]
          rfl
        have bare : (Path.split path).2 = "" := by
          by_contra filled
          exact free (isDirectory_of_not_namesLeaf sound homes filled leaf parent)
        simp only [if_pos bare]

/-- A directory has got a new time, and with its old one nothing differs from before. -/
def Stamped (before after : FileSystem) (path : String) (time : Timestamp) : Prop :=
  ∃ folder, before.resolve path = some folder ∧
    after.resolve path = some { folder with modified := time } ∧
    (after.change path fun node => { node with modified := folder.modified }) = before

/-- There is an empty file at a path, and every other way leads to what it led to before. -/
structure Emptied (before after : FileSystem) (path : String) : Prop where
  current : after.current = before.current
  file : ∃ file, after.resolve path = some file ∧ file.kind = .file ∧ file.content = "" ∧
    file.size = 0
  elsewhere : ∀ way, way ≠ before.way path →
    after.root.standing? way = before.root.standing? way

theorem resolve_any_isDirectory :
    (files.resolve path).any Node.isDirectory = true ↔ files.IsDirectory (files.way path) := by
  rcases find?_cases files (files.way path) with
    ⟨missing, notFolder, -⟩ | ⟨node, leads, ⟨kind, folder, -⟩ | ⟨kind, notFolder, -⟩⟩
  · simp [resolve, missing, notFolder]
  · simp [resolve, leads, kind, folder]
  · simp [resolve, leads, kind, notFolder]

theorem stamped_change (folder : files.IsDirectory (files.way path)) (time : Timestamp) :
    Stamped files (files.change path fun node => { node with modified := time }) path time := by
  rcases find?_cases files (files.way path) with
    ⟨missing, notFolder, -⟩ | ⟨node, leads, -⟩
  · contradiction
  · refine ⟨node, leads, ?_, ?_⟩
    · have changed := Node.find?_changeAt_append (fun node => { node with modified := time })
        (files.way path) [] files.root
      rw [List.append_nil, leads] at changed
      exact changed
    · have undone : ∀ found, files.root.find? (files.way path) = some found →
          { found with modified := node.modified } = found := by
        intro found same
        obtain rfl : node = found := Option.some.inj (leads.symm.trans same)
        cases node
        rfl
      have back : (files.root.changeAt (fun node => { node with modified := time })
          (files.way path)).changeAt (fun found => { found with modified := node.modified })
            (files.way path) = files.root :=
        (Node.changeAt_changeAt ..).trans (Node.changeAt_of_fixed undone)
      exact congrArg (fun root => { files with root }) back

theorem emptied_of_write (sound : files.root.Sound) {now : Timestamp} {name : String}
    {after : FileSystem} (written : files.write now path "" =
      .ok (.file now name "" operatorName, after))
    (leads : after.root.find? (files.way path) = some (.file now name "" operatorName)) :
    Emptied files after path := by
  obtain ⟨-, same, -, standing⟩ := standing?_write sound written
  refine ⟨same, ⟨.file now name "" operatorName, ?_, rfl, rfl, rfl⟩, fun way other => ?_⟩
  · rw [resolve, FileSystem.way, same]
    exact leads
  · rw [standing, if_neg other]

end FileSystem

namespace Processor

variable {processor : Processor}

theorem touch_of_directory {now time : Timestamp} {path : String}
    (folder : processor.files.IsDirectory (processor.files.way path))
    (shown : (processor.clock.read now).1 = .ok time) (others : List String) :
    processor.touch now (path :: others) = (.ok (.success ""), { processor with
      clock := (processor.clock.read now).2
      files := processor.files.change path fun node => { node with modified := time } }) := by
  simp only [touch, if_pos (FileSystem.resolve_any_isDirectory.mpr folder), stamp, readClock, shown]

theorem touch_of_free {path : String}
    (free : ¬ processor.files.IsDirectory (processor.files.way path)) (now : Timestamp)
    (others : List String) :
    processor.touch now (path :: others) = processor.createFile now path := by
  simp only [touch, if_neg (mt FileSystem.resolve_any_isDirectory.mp free)]

theorem createFile_of_error {now : Timestamp} {path : String} {fault : FileFault}
    (failed : processor.files.write now path "" = .error fault) :
    processor.createFile now path = (.error (.file fault), processor) := by
  unfold createFile
  rw [failed]

theorem createFile_of_ok {now : Timestamp} {path : String} {file : Node} {after : FileSystem}
    (written : processor.files.write now path "" = .ok (file, after)) :
    processor.createFile now path = (.ok (.success ""), { processor with files := after }) := by
  unfold createFile
  rw [written]

theorem settle_missing (path : String) :
    settle (.error (.file ⟨.write, .notFound, path⟩)) =
      .ok (.error ("touch: cannot touch '" ++ path ++ "': No such file or directory")) := by
  have message : (FileFault.mk .write .notFound path).message =
      "touch: cannot touch '" ++ path ++ "': No such file or directory" := by
    simp only [FileFault.message, FileReason.message, String.append_assoc]
    rfl
  rw [← message]
  rfl

theorem createFile_record (now : Timestamp) (line path : String) (processor : Processor) :
    (processor.record line).createFile now path =
      ((processor.createFile now path).1, (processor.createFile now path).2.record line) := by
  unfold createFile
  have same : (processor.record line).files = processor.files := rfl
  rw [same]
  generalize processor.files.write now path "" = written
  cases written with
  | error fault => rfl
  | ok outcome => rfl

theorem touch_record (now : Timestamp) (line : String) (words : List String)
    (processor : Processor) :
    (processor.record line).touch now words =
      ((processor.touch now words).1, (processor.touch now words).2.record line) := by
  cases words with
  | nil => rfl
  | cons path others =>
      have same : (processor.record line).files = processor.files := rfl
      rw [touch, touch, same]
      split
      · simp only [stamp, readClock, record]
        cases (processor.clock.read now).1 <;> rfl
      · exact createFile_record now line path processor

/-- Touching never reports that a path is a directory.  It fails if there is no directory to
create a file in, and changes nothing then; otherwise the path is there afterwards, a directory
with a new time or an empty file, and nothing else has changed. -/
theorem touch_delivers (sound : processor.files.root.Sound)
    (homes : processor.files.IsDirectory Path.home) {now time : Timestamp}
    (shown : (processor.clock.read now).1 = .ok time) (path : String) (others : List String) :
    let files := processor.files
    let outcome := (processor.touch now (path :: others)).1
    let later := (processor.touch now (path :: others)).2.files
    (¬ files.IsDirectory (files.way path) →
      files.write now path "" ≠ .error ⟨.write, .isDirectory, path⟩) ∧
    (settle outcome =
          .ok (.error ("touch: cannot touch '" ++ path ++ "': No such file or directory")) ∧
        outcome = .error (.file ⟨.write, .notFound, path⟩) ∧ later = files ∨
      settle outcome = .ok (.success "") ∧ (later.resolve path).isSome = true ∧
        (files.IsDirectory (files.way path) → files.Stamped later path time) ∧
        (¬ files.IsDirectory (files.way path) → files.Emptied later path)) ∧
    ∀ line, Text.words line = "touch" :: path :: others →
      (processor.execute now line).1 = settle outcome ∧
        (processor.execute now line).2.files = later := by
  intro files outcome later
  refine ⟨fun free => ?_, ?_, fun line parts => ?_⟩
  · rcases files.write_of_free sound homes free now "" with missing | ⟨name, after, written, -⟩
    · rw [missing]
      simp
    · rw [written]
      simp
  · by_cases folder : files.IsDirectory (files.way path)
    · have touched := touch_of_directory folder shown others
      have stamped := FileSystem.stamped_change folder time
      have last : later = files.change path fun node => { node with modified := time } := by
        simp only [later, touched, files]
      have success : settle outcome = .ok (.success "") := by
        simp only [outcome, touched, settle]
      rw [last]
      have resolves : ((files.change path fun node =>
          { node with modified := time }).resolve path).isSome = true := by
        obtain ⟨_, -, there, -⟩ := stamped
        rw [there]
        rfl
      exact .inr ⟨success, resolves, fun _ => stamped, fun free => absurd folder free⟩
    · have touched : processor.touch now (path :: others) = processor.createFile now path :=
        touch_of_free folder now others
      rcases files.write_of_free sound homes folder now "" with
        missing | ⟨name, after, written, leads⟩
      · have failed := touched.trans (createFile_of_error missing)
        simp only [outcome, later, failed]
        exact .inl ⟨settle_missing path, trivial, rfl⟩
      · have emptied := FileSystem.emptied_of_write sound written leads
        have created := touched.trans (createFile_of_ok written)
        simp only [outcome, later, created]
        refine .inr ⟨rfl, ?_, fun taken => absurd taken folder, fun _ => emptied⟩
        obtain ⟨file, there, -⟩ := emptied.file
        rw [there]
        rfl
  · have run := touch_record now line (path :: others) processor
    have known : Verb.ofName? "touch" = some .touch := Verb.ofName?_name .touch
    simp only [execute, start, parts, known, dispatch, attempt, run, map_caught]
    exact ⟨rfl, rfl⟩

/-- A way that ends in a dot behind a directory gives that a new time, a name behind it makes a
file there, and a dot behind a file leads nowhere. -/
theorem touch_delivers_tools :
    let processor := Processor.fresh default .instant (.constant 0.5)
    let files := processor.files
    files.root.Sound ∧ files.IsDirectory Path.home ∧
      (processor.clock.read default).1 = .ok default ∧
      files.Stamped (processor.touch default ["tools/."]).2.files "tools/." default ∧
      files.Emptied (processor.touch default ["..//operator/tools/~"]).2.files
        "..//operator/tools/~" ∧
      (processor.execute default "touch notes.txt/. now").1 =
        .ok (.error "touch: cannot touch 'notes.txt/.': No such file or directory") := by
  intro processor files
  have sound : files.root.Sound := Node.sound_seed default
  have homes : files.IsDirectory Path.home := by decide +kernel
  have shown : (processor.clock.read default).1 = .ok default := rfl
  obtain ⟨-, folder, -⟩ := touch_delivers sound homes shown "tools/." []
  obtain ⟨-, created, -⟩ := touch_delivers sound homes shown "..//operator/tools/~" []
  obtain ⟨-, refused, run⟩ := touch_delivers sound homes shown "notes.txt/." ["now"]
  refine ⟨sound, homes, shown, ?_, ?_, ?_⟩
  · rcases folder with ⟨failed, -⟩ | ⟨-, -, stamped, -⟩
    · exact absurd failed (by decide +kernel)
    · exact stamped (by decide +kernel)
  · rcases created with ⟨failed, -⟩ | ⟨-, -, -, emptied⟩
    · exact absurd failed (by decide +kernel)
    · exact emptied (by decide +kernel)
  · refine (run "touch notes.txt/. now" (by decide +kernel)).1.trans ?_
    rcases refused with ⟨failed, -⟩ | ⟨success, -⟩
    · exact failed
    · exact absurd success (by decide +kernel)

end Processor

end CyberRange
