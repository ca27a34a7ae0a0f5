import CyberRange.FileTree.FileSystem
import CyberRange.Proofs.FileTree.Placing
import CyberRange.Proofs.FileTree.Ways

namespace CyberRange.FileSystem

/-! A file system as a flat map.

All that the operations on paths show of a tree is which ways lead to a directory
and which to a file with what content.  The directories stay what they are, and a
write changes the map at the way of its path and nowhere else.
-/

open Node (Standing)

variable {files : FileSystem} {path : String}

/-- The ways that lead to a directory. -/
def IsDirectory (files : FileSystem) (way : List String) : Prop :=
  files.root.standing? way = some .directory

instance (files : FileSystem) (way : List String) : Decidable (files.IsDirectory way) :=
  inferInstanceAs (Decidable (_ = _))

/-- The ways that lead to a file, with its content. -/
def content? (files : FileSystem) (way : List String) : Option String :=
  match files.root.standing? way with
  | some (.file content) => some content
  | _ => none

inductive Call where
  | enter (path : String)
  | read (path : String)
  | list (path : String)
  | write (now : Timestamp) (path content : String)

/-- What an operation leaves behind; one that fails changes nothing. -/
def settle (files : FileSystem) : Except FileFault FileSystem → FileSystem
  | .ok after => after
  | .error _ => files

def afterCall (files : FileSystem) : Call → FileSystem
  | .enter path => files.settle (files.enter path)
  | .read _ | .list _ => files
  | .write now path content => files.settle ((files.write now path content).map Prod.snd)

/-- A call leaves the files as they are, or is one to enter or to write and goes through. -/
theorem afterCall_cases (files : FileSystem) (call : Call) :
    files.afterCall call = files ∨
      (∃ path, call = .enter path ∧ files.enter path = .ok (files.afterCall call)) ∨
      ∃ now path content file, call = .write now path content ∧
        files.write now path content = .ok (file, files.afterCall call) := by
  cases call with
  | read path | list path => exact .inl rfl
  | enter path =>
      rw [afterCall]
      cases entered : files.enter path with
      | error fault => exact .inl rfl
      | ok after => exact .inr (.inl ⟨path, rfl, entered⟩)
  | write now path content =>
      rw [afterCall]
      cases written : files.write now path content with
      | error fault => exact .inl rfl
      | ok outcome => exact .inr (.inr ⟨now, path, content, outcome.1, rfl, written⟩)

def afterCalls (files : FileSystem) (calls : List Call) : FileSystem :=
  calls.foldl afterCall files

/-- Entering a path depends on the map alone, and leaves it as it is. -/
structure EntersByMap (files : FileSystem) (path : String) : Prop where
  succeeds : ∀ after, files.enter path = .ok after ↔
    files.IsDirectory (files.way path) ∧ after = { files with current := files.way path }
  wrongType : files.enter path = .error ⟨.enter, .notDirectory, path⟩ ↔
    (files.content? (files.way path)).isSome
  missing : files.enter path = .error ⟨.enter, .notFound, path⟩ ↔
    ¬ files.IsDirectory (files.way path) ∧ files.content? (files.way path) = none

structure ReadsByMap (files : FileSystem) (path : String) : Prop where
  succeeds : ∀ content, files.read path = .ok content ↔
    files.content? (files.way path) = some content
  wrongType : files.read path = .error ⟨.read, .isDirectory, path⟩ ↔
    files.IsDirectory (files.way path)
  missing : files.read path = .error ⟨.read, .notFound, path⟩ ↔
    ¬ files.IsDirectory (files.way path) ∧ files.content? (files.way path) = none

structure ListsByMap (files : FileSystem) (path : String) : Prop where
  succeeds : (∃ nodes, files.list path = .ok nodes) ↔ files.IsDirectory (files.way path)
  missing : files.list path = .error ⟨.list, .notFound, path⟩ ↔
    ¬ files.IsDirectory (files.way path)

/-- Writing to a path that names a leaf depends on the map alone, and changes it at
the way of the path; no other path is ever written to. -/
structure WritesByMap (files : FileSystem) (path : String) : Prop where
  onlyLeaves : ∀ now content node after, files.write now path content = .ok (node, after) →
    Path.NamesLeaf path
  succeeds : Path.NamesLeaf path → ∀ now content,
    (∃ node after, files.write now path content = .ok (node, after)) ↔
      files.IsDirectory (files.way path).dropLast ∧ ¬ files.IsDirectory (files.way path)
  wrongType : Path.NamesLeaf path → ∀ now content,
    files.write now path content = .error ⟨.write, .isDirectory, path⟩ ↔
      files.IsDirectory (files.way path).dropLast ∧ files.IsDirectory (files.way path)
  missing : Path.NamesLeaf path → ∀ now content,
    files.write now path content = .error ⟨.write, .notFound, path⟩ ↔
      ¬ files.IsDirectory (files.way path).dropLast
  effect : ∀ now content node after, files.write now path content = .ok (node, after) →
    after.current = files.current ∧
      (∀ way, after.IsDirectory way ↔ files.IsDirectory way) ∧
      ∀ way, after.content? way =
        if way = files.way path then some content else files.content? way

/-- What a way finds, as it is seen through the map. -/
theorem find?_cases (files : FileSystem) (way : List String) :
    (files.root.find? way = none ∧ ¬ files.IsDirectory way ∧ files.content? way = none) ∨
      ∃ node, files.root.find? way = some node ∧
        ((node.isDirectory = true ∧ files.IsDirectory way ∧ files.content? way = none) ∨
          (node.isDirectory = false ∧ ¬ files.IsDirectory way ∧
            files.content? way = some node.content)) := by
  cases leads : files.root.find? way with
  | none => exact .inl ⟨rfl, by simp [IsDirectory, content?, Node.standing?, leads]⟩
  | some node =>
      refine .inr ⟨node, rfl, ?_⟩
      cases kind : node.isDirectory <;>
        simp [IsDirectory, content?, Node.standing?, Node.standing, leads, kind]

theorem entersByMap (files : FileSystem) (path : String) : EntersByMap files path := by
  rcases find?_cases files (files.way path) with
    ⟨missing, notFolder, nothing⟩ | ⟨node, leads, ⟨kind, folder, nothing⟩ | ⟨kind, notFolder, text⟩⟩
  · constructor <;> simp [enter, resolve, *]
  · constructor <;> simp [enter, resolve, *, eq_comm]
  · constructor <;> simp [enter, resolve, *]

theorem root_of_enter {after : FileSystem} (entered : files.enter path = .ok after) :
    after.root = files.root := by
  obtain ⟨-, rfl⟩ := ((entersByMap files path).succeeds after).mp entered
  rfl

theorem readsByMap (files : FileSystem) (path : String) : ReadsByMap files path := by
  rcases find?_cases files (files.way path) with
    ⟨missing, notFolder, nothing⟩ | ⟨node, leads, ⟨kind, folder, nothing⟩ | ⟨kind, notFolder, text⟩⟩
  · constructor <;> simp [read, resolve, *]
  · constructor <;> simp [read, resolve, *]
  · constructor <;> simp [read, resolve, *]

/-- In a sound tree, what a way finds has a mapping if it is a directory. -/
theorem children_find? (sound : files.root.Sound) (way : List String) :
    ((files.root.find? way).bind Node.children).isSome = true ↔ files.IsDirectory way := by
  rcases find?_cases files way with
    ⟨missing, notFolder, -⟩ | ⟨node, leads, ⟨kind, folder, -⟩ | ⟨kind, notFolder, -⟩⟩
  · simp [missing, notFolder]
  · obtain ⟨members, mapped⟩ := (sound.at leads).children_of_directory kind
    simp [leads, mapped, folder]
  · have bare := (sound.at leads).children_of_file kind
    simp [leads, bare, notFolder]

theorem listsByMap (sound : files.root.Sound) (path : String) : ListsByMap files path := by
  have mapped := children_find? sound (files.way path)
  cases found : (files.resolve path).bind Node.children with
  | none =>
      have notFolder : ¬ files.IsDirectory (files.way path) := by
        rw [← mapped, ← resolve, found]
        exact Bool.false_ne_true
      constructor <;> simp [list, found, notFolder]
  | some members =>
      have folder : files.IsDirectory (files.way path) := by
        rw [← mapped, ← resolve, found]
        rfl
      constructor <;> simp [list, found, folder]

/-- What a write that goes through has done: only to a path that names a leaf, and there. -/
theorem of_write {now : Timestamp} {content : String} {file : Node} {after : FileSystem}
    (written : files.write now path content = .ok (file, after)) :
    ∃ directory name, Path.split path = (directory, name) ∧ Path.NamesLeaf path ∧
      files.way path = files.way directory ++ [name] ∧
      file = .file now name content operatorName ∧
      after = { files with
        root := files.root.changeAt (.withChild name file) (files.way directory) } := by
  refine ⟨(Path.split path).1, (Path.split path).2, rfl, ?_⟩
  rw [write_eq] at written
  cases found : (files.resolve (Path.split path).1).bind Node.children with
  | none => simp [found] at written
  | some members =>
      simp only [found] at written
      split at written
      · simp at written
      · rename_i named
        split at written
        · simp at written
        · rename_i accepted
          simp only [namesFile, Bool.or_eq_true, Bool.not_eq_true', not_or, Bool.not_eq_false,
            Bool.and_eq_true, decide_eq_true_eq] at accepted
          obtain ⟨⟨⟨notDot, notDots⟩, notHome⟩, -⟩ := accepted
          obtain ⟨rfl, rfl⟩ := Prod.mk.inj (Except.ok.inj written)
          have leaf : Path.NamesLeaf path := ⟨named, notDot, notDots, notHome⟩
          exact ⟨leaf, Path.normalize_of_namesLeaf leaf, rfl, rfl⟩

/-- Only a path that names a leaf is ever written to. -/
theorem namesLeaf_of_write {now : Timestamp} {content : String} {node : Node}
    {after : FileSystem} (written : files.write now path content = .ok (node, after)) :
    Path.NamesLeaf path := by
  obtain ⟨directory, name, -, leaf, -⟩ := of_write written
  exact leaf

/-- A write leaves the current directory where it is. -/
theorem current_of_write {now : Timestamp} {content : String} {node : Node}
    {after : FileSystem} (written : files.write now path content = .ok (node, after)) :
    after.current = files.current := by
  obtain ⟨directory, name, -, -, -, -, rfl⟩ := of_write written
  rfl

/-- What stands under a key of a directory, as its mapping and as the map have it. -/
theorem isDirectory_concat {folder : Node} {members : List (String × Node)} {way : List String}
    (leads : files.root.find? way = some folder) (mapped : folder.children = some members)
    (key : String) :
    (Entries.get? key members).any Node.isDirectory = true ↔
      files.IsDirectory (way ++ [key]) := by
  have held : files.root.find? (way ++ [key]) = Entries.get? key members := by
    rw [Node.find?_concat, leads, Option.bind_some, Node.child?, mapped, Option.bind_some]
  rcases find?_cases files (way ++ [key]) with
    ⟨missing, notFolder, -⟩ | ⟨node, found, ⟨kind, folder, -⟩ | ⟨kind, notFolder, -⟩⟩
  · rw [← held, missing]
    simpa using notFolder
  · rw [← held, found]
    simpa [kind] using folder
  · rw [← held, found]
    simpa [kind] using notFolder

/-- What a write to a leaf does, by the map: the parent has to be a directory, and
the leaf itself must not be one. -/
theorem write_of_namesLeaf (sound : files.root.Sound) (leaf : Path.NamesLeaf path)
    (now : Timestamp) (content : String) :
    files.write now path content =
      if files.IsDirectory (files.way path).dropLast then
        if files.IsDirectory (files.way path) then .error ⟨.write, .isDirectory, path⟩
        else
          .ok (.file now (Path.split path).2 content operatorName, { files with
            root := .place (files.way path).dropLast (Path.split path).2
              (.file now (Path.split path).2 content operatorName) files.root })
      else .error ⟨.write, .notFound, path⟩ := by
  have parts : files.way path = files.way (Path.split path).1 ++ [(Path.split path).2] :=
    Path.normalize_of_namesLeaf leaf
  have mapped := children_find? sound (files.way (Path.split path).1)
  obtain ⟨named, notDot, notDots, notHome⟩ := leaf
  rw [parts, List.dropLast_concat, write_eq]
  cases found : (files.resolve (Path.split path).1).bind Node.children with
  | none =>
      have notFolder : ¬ files.IsDirectory (files.way (Path.split path).1) := by
        rw [← mapped, ← resolve, found]
        exact Bool.false_ne_true
      rw [if_neg notFolder]
  | some members =>
      have folder : files.IsDirectory (files.way (Path.split path).1) := by
        rw [← mapped, ← resolve, found]
        rfl
      obtain ⟨node, leads, children⟩ := Option.bind_eq_some_iff.mp found
      have taken := isDirectory_concat leads children (Path.split path).2
      have accepted : namesFile path (Path.split path).2 = true := by
        simp [namesFile, notDot, notDots, notHome]
      simp only [if_neg named, accepted, Bool.not_true, Bool.false_or, taken, if_pos folder]
      rfl

/-- A successful write puts its content at the way of its path and does nothing else. -/
theorem standing?_write (sound : files.root.Sound) {now : Timestamp} {content : String}
    {node : Node} {after : FileSystem}
    (written : files.write now path content = .ok (node, after)) :
    ¬ files.IsDirectory (files.way path) ∧ after.current = files.current ∧ after.root.Sound ∧
      ∀ way, after.root.standing? way =
        if way = files.way path then some (.file content) else files.root.standing? way := by
  have leaf := namesLeaf_of_write written
  have parts : files.way path = (files.way path).dropLast ++ [(Path.split path).2] := by
    rw [way, Path.normalize_of_namesLeaf leaf, List.dropLast_concat]
  rw [write_of_namesLeaf sound leaf] at written
  by_cases parent : files.IsDirectory (files.way path).dropLast
  · by_cases taken : files.IsDirectory (files.way path)
    · rw [if_pos parent, if_pos taken] at written
      simp at written
    · rw [if_pos parent, if_neg taken] at written
      obtain ⟨-, rfl⟩ := Prod.mk.inj (Except.ok.inj written)
      obtain ⟨members, mapped⟩ := Option.isSome_iff_exists.mp
        ((children_find? sound (files.way path).dropLast).mpr parent)
      obtain ⟨folder, leads, children⟩ := Option.bind_eq_some_iff.mp mapped
      have free : files.root.standing?
          ((files.way path).dropLast ++ [(Path.split path).2]) ≠ some .directory := by
        rw [← parts]
        exact taken
      refine ⟨taken, rfl, sound.place leads children (Node.sound_file _ _ _ _), fun way => ?_⟩
      have bare : (Node.file now (Path.split path).2 content operatorName).children = none := rfl
      have placed := Node.standing?_place sound leads children rfl bare free way
      rw [← parts] at placed
      exact placed
  · rw [if_neg parent] at written
    simp at written

theorem writesByMap (sound : files.root.Sound) (path : String) : WritesByMap files path where
  onlyLeaves _ _ _ _ written := namesLeaf_of_write written
  succeeds leaf now content := by
    rw [write_of_namesLeaf sound leaf]
    by_cases parent : files.IsDirectory (files.way path).dropLast <;>
      by_cases taken : files.IsDirectory (files.way path) <;> simp [parent, taken]
  wrongType leaf now content := by
    rw [write_of_namesLeaf sound leaf]
    by_cases parent : files.IsDirectory (files.way path).dropLast <;>
      by_cases taken : files.IsDirectory (files.way path) <;> simp [parent, taken]
  missing leaf now content := by
    rw [write_of_namesLeaf sound leaf]
    by_cases parent : files.IsDirectory (files.way path).dropLast <;>
      by_cases taken : files.IsDirectory (files.way path) <;> simp [parent, taken]
  effect now content node after written := by
    obtain ⟨free, current, -, standing⟩ := standing?_write sound written
    refine ⟨current, fun way => ?_, fun way => ?_⟩
    · by_cases same : way = files.way path
      · subst same
        rw [IsDirectory, standing, if_pos rfl]
        simp [free]
      · rw [IsDirectory, standing, if_neg same, IsDirectory]
    · by_cases same : way = files.way path
      · rw [content?, standing, if_pos same, if_pos same]
      · rw [content?, standing, if_neg same, if_neg same, content?]

/-- No call moves, makes or removes a directory, and the tree stays sound. -/
theorem directories_afterCall (sound : files.root.Sound) (call : Call) :
    (files.afterCall call).root.Sound ∧
      ∀ way, (files.afterCall call).IsDirectory way ↔ files.IsDirectory way := by
  rcases afterCall_cases files call with
    same | ⟨path, -, entered⟩ | ⟨now, path, content, file, -, written⟩
  · rw [same]
    exact ⟨sound, fun _ => .rfl⟩
  · obtain ⟨-, moved⟩ := ((entersByMap files path).succeeds _).mp entered
    rw [moved]
    exact ⟨sound, fun _ => .rfl⟩
  · obtain ⟨-, -, stays, -⟩ := standing?_write sound written
    obtain ⟨-, directories, -⟩ := (writesByMap sound path).effect now content file _ written
    exact ⟨stays, directories⟩

theorem directories_afterCalls (sound : files.root.Sound) (calls : List Call) :
    (files.afterCalls calls).root.Sound ∧
      ∀ way, (files.afterCalls calls).IsDirectory way ↔ files.IsDirectory way := by
  induction calls generalizing files with
  | nil => exact ⟨sound, fun _ => .rfl⟩
  | cons call rest induction =>
      obtain ⟨stays, directories⟩ := directories_afterCall sound call
      obtain ⟨last, further⟩ := induction stays
      exact ⟨last, fun way => (further way).trans (directories way)⟩

/-- From a sound tree, after any calls, the directories are those of the beginning and
every operation goes by the flat map that the tree then stands for. -/
theorem byMap_afterCalls (sound : files.root.Sound) (calls : List Call) :
    let here := files.afterCalls calls
    (∀ way, here.IsDirectory way ↔ files.IsDirectory way) ∧
      ∀ path, EntersByMap here path ∧ ReadsByMap here path ∧ ListsByMap here path ∧
        WritesByMap here path := by
  obtain ⟨stays, directories⟩ := directories_afterCalls sound calls
  exact ⟨directories, fun path =>
    ⟨entersByMap _ path, readsByMap _ path, listsByMap stays path, writesByMap stays path⟩⟩

/-- From the seed tree, a note written from below its directory is on the map, and
the next calls go by the map that has it. -/
theorem byMap_seed_note :
    let files := atHome (.seed default)
    let here := files.afterCalls [.enter "tools", .write default "..//./note" "one", .enter ".."]
    files.root.Sound ∧ here.content? ["home", "operator", "note"] = some "one" ∧
      (∀ way, here.IsDirectory way ↔ files.IsDirectory way) ∧
      ∀ path, EntersByMap here path ∧ ReadsByMap here path ∧ ListsByMap here path ∧
        WritesByMap here path :=
  ⟨Node.sound_seed default, by decide +kernel, byMap_afterCalls (Node.sound_seed default) _⟩

end CyberRange.FileSystem
