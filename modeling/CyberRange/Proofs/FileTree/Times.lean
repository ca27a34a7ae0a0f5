import CyberRange.Proofs.FileTree.Everywhere
import CyberRange.Proofs.FileTree.FlatMap

namespace CyberRange

/-! The times of the nodes of a tree.

A node gets a time when it is stamped and a file when it is written, and the times of all other
nodes stay.  Nothing is asked of the tree: where a file has nodes below it, which a sound tree
has not, they go away with it when it is written over.
-/

namespace Node

variable {root folder file : Node} {name : String} {directory way other : List String}
  {members : List (String × Node)} {change : Node → Node}

def time? (way : List String) (root : Node) : Option Timestamp :=
  (root.find? way).map modified

theorem modified_changeAt (keeps : ∀ node, (change node).modified = node.modified)
    (way : List String) (node : Node) : (changeAt change way node).modified = node.modified := by
  cases way with
  | nil => exact keeps node
  | cons step rest => rfl

theorem time?_changeAt_of_ne (spares : ∀ node, (change node).children = node.children)
    (different : other ≠ way) (node : Node) :
    (changeAt change way node).time? other = node.time? other := by
  induction way generalizing other node with
  | nil =>
      obtain ⟨key, rest, rfl⟩ := List.exists_cons_of_ne_nil different
      rw [time?, time?, find?_cons, find?_cons, child?, child?, changeAt, spares]
  | cons step steps induction =>
      cases other with
      | nil => rfl
      | cons key rest =>
          rw [time?, time?, find?_cons, find?_cons, child?_changeAt_cons]
          split
          · rename_i same
            have apart : rest ≠ steps := fun equal => different (by rw [same, equal])
            cases node.child? key with
            | none => rfl
            | some child => exact induction apart child
          · rfl

theorem time?_place (leads : root.find? directory = some folder)
    (mapped : folder.children = some members) (bare : file.children = none)
    (different : way ≠ directory ++ [name]) :
    (place directory name file root).time? way = root.time? way ∨
      directory ++ [name] <+: way ∧ (place directory name file root).time? way = none := by
  by_cases below : directory ++ [name] <+: way
  · refine .inr ⟨below, ?_⟩
    obtain ⟨rest, rfl⟩ := below
    cases rest with
    | nil => exact absurd (List.append_nil _) different
    | cons key more =>
        -- whatever was below the name, the file that is there now has no children
        rw [List.append_assoc, List.singleton_append, time?, find?_place_below leads mapped,
          find?_of_children_eq_none bare]
        rfl
  · refine .inl ?_
    have keeps : ∀ node, (withChild name file node).modified = node.modified := fun _ => rfl
    rcases find?_place_cases below file root with ⟨rest, altered⟩ | same
    · rw [time?, altered, Option.map_map, time?]
      congr 1
      funext node
      exact modified_changeAt keeps rest node
    · rw [time?, same, time?]

end Node

namespace FileSystem

variable {files before after : FileSystem} {path content : String} {now time : Timestamp}
  {file : Node}

/-- What holds of all nodes holds of those that a directory is listed with. -/
theorem everywhere_list {holds : Node → Prop} (everywhere : files.root.Everywhere holds)
    {nodes : List Node} (listed : files.list path = .ok nodes) : ∀ node ∈ nodes, holds node := by
  intro node member
  rw [list] at listed
  split at listed
  · contradiction
  · rename_i members mapped
    obtain ⟨folder, leads, children⟩ := Option.bind_eq_some_iff.mp mapped
    obtain rfl := Except.ok.inj listed
    obtain ⟨entry, there, rfl⟩ := List.mem_map.mp member
    have inside : entry ∈ folder.members := by rwa [Node.members, children]
    exact ((everywhere.at leads).child inside).here

/-- A write that goes through has put a file into a directory. -/
theorem place_of_write (written : files.write now path content = .ok (file, after)) :
    ∃ directory name folder members, files.way path = directory ++ [name] ∧
      files.root.find? directory = some folder ∧ folder.children = some members ∧
      file = .file now name content operatorName ∧
      after = { files with root := .place directory name file files.root } := by
  obtain ⟨directory, name, parts, -, last, file_eq, after_eq⟩ := of_write written
  cases found : (files.resolve directory).bind Node.children with
  | none => simp [write_eq, parts, found] at written
  | some members =>
      obtain ⟨folder, leads, children⟩ := Option.bind_eq_some_iff.mp found
      exact ⟨files.way directory, name, folder, members, last, leads, children, file_eq, after_eq⟩

/-- What is at a path has a time, and is a directory if one was there; all other nodes have the
times that they had, but for those below what is there, if that was no directory.  So what holds
of all times before and of the new one holds of all times afterwards. -/
structure Retimed (before after : FileSystem) (path : String) (time : Timestamp) : Prop where
  touched : ∃ node, after.resolve path = some node ∧ node.modified = time ∧
    (node.isDirectory = true ↔ before.IsDirectory (before.way path))
  elsewhere : ∀ way, way ≠ before.way path → after.root.time? way = before.root.time? way ∨
    ¬ before.IsDirectory (before.way path) ∧ before.way path <+: way ∧
      after.root.time? way = none
  everywhere : ∀ holds : Timestamp → Prop, before.root.Everywhere (fun node => holds node.modified) →
    holds time → after.root.Everywhere fun node => holds node.modified

theorem Retimed.elsewhere_of_sound (retimed : before.Retimed after path time)
    (sound : before.root.Sound) {way : List String} (different : way ≠ before.way path) :
    after.root.time? way = before.root.time? way := by
  rcases retimed.elsewhere way different with same | ⟨notFolder, ⟨rest, rfl⟩, gone⟩
  · exact same
  · cases rest with
    | nil => exact absurd (List.append_nil _) different
    | cons key more =>
        have nothing : before.root.standing? (before.way path ++ key :: more) = none :=
          sound.standing?_append_cons notFolder key more
        have missing : before.root.find? (before.way path ++ key :: more) = none := by
          simpa [Node.standing?] using nothing
        rw [gone, Node.time?, missing]
        rfl

theorem retimed_change (folder : files.IsDirectory (files.way path)) (time : Timestamp) :
    files.Retimed (files.change path fun node => { node with modified := time }) path time := by
  have spares : ∀ node : Node, { node with modified := time }.children = node.children :=
    fun _ => rfl
  refine ⟨?_, fun way different => .inl (Node.time?_changeAt_of_ne spares different files.root),
    fun holds before holds_time => ?_⟩
  · rcases find?_cases files (files.way path) with
      ⟨-, notFolder, -⟩ | ⟨node, leads, ⟨kind, -, -⟩ | ⟨-, notFolder, -⟩⟩
    · exact absurd folder notFolder
    · refine ⟨{ node with modified := time }, ?_, rfl, iff_of_true kind folder⟩
      have changed := Node.find?_changeAt_append (fun node => { node with modified := time })
        (files.way path) [] files.root
      rw [List.append_nil, leads] at changed
      exact changed
    · exact absurd folder notFolder
  · exact before.changeOwnAt (fun node => { node with modified := time }) (fun _ => rfl)
      (fun _ => rfl) (fun _ _ _ _ own => own) (fun _ _ => holds_time) _

theorem retimed_write (free : ¬ files.IsDirectory (files.way path))
    (written : files.write now path content = .ok (file, after)) :
    files.Retimed after path now := by
  obtain ⟨directory, name, folder, members, last, leads, mapped, rfl, rfl⟩ :=
    place_of_write written
  refine ⟨⟨.file now name content operatorName, ?_, rfl, iff_of_false Bool.false_ne_true free⟩,
    fun way different => ?_, fun holds before holds_now => ?_⟩
  · have placed : (Node.place directory name (.file now name content operatorName)
        files.root).find? (directory ++ [name]) = some (.file now name content operatorName) :=
      Node.find?_place_below leads mapped []
    rw [← last] at placed
    exact placed
  · rw [last] at different
    have bare : (Node.file now name content operatorName).children = none := rfl
    rcases Node.time?_place leads mapped bare different with same | ⟨below, gone⟩
    · exact .inl same
    · exact .inr ⟨free, by rwa [last], gone⟩
  · have brought : (Node.file now name content operatorName).Everywhere
        fun node => holds node.modified :=
      Node.everywhere_of_members holds_now fun _ member => absurd member List.not_mem_nil
    exact .withChildAt name (fun _ _ _ _ own => own) (fun _ own => own) brought before directory

end FileSystem

end CyberRange
